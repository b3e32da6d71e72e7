import Mathlib.Data.Int.Notation
import DistributedNetwork.Library.CircularBuffer
import DistributedNetwork.Library.MachineInt

/-!
# The ring buffer

Every operation as the code computes it: offsets are `size_t` values with wrapping arithmetic, a few
lengths go through a 32-bit `int`, pointers are offsets into `m_buffer`, and a `memcpy` is an
`overwrite`, which changes the length of the block precisely when it leaves the block.

Return codes are kept next to the state, so that what a failing call leaves behind can be stated.
-/

namespace DistributedNetwork.Buffer

open DistributedNetwork.Library

abbrev Byte := UInt8

def c_reservedSpace : ℕ := 2

structure RingBuffer where
  m_buffer : List Byte
  m_size : ℕ
  m_startOffset : ℕ := 0
  m_endOffset : ℕ := 0
  deriving DecidableEq, Repr

namespace RingBuffer

def new (size : ℕ) : RingBuffer where
  m_buffer := List.replicate size 0
  m_size := size

def dataLength (rb : RingBuffer) : ℕ :=
  if rb.m_endOffset ≥ rb.m_startOffset then sizeSub rb.m_endOffset rb.m_startOffset
  else sizeAdd rb.m_endOffset (sizeSub rb.m_size rb.m_startOffset)

/-- The free space, less two bytes that are never used. -/
def space (rb : RingBuffer) : ℕ :=
  if rb.m_startOffset = rb.m_endOffset then sizeSub rb.m_size c_reservedSpace
  else if rb.m_startOffset < rb.m_endOffset then
    if sizeAdd rb.m_endOffset c_reservedSpace % rb.m_size = rb.m_startOffset then 0
    else sizeSub (sizeAdd (sizeSub rb.m_size rb.m_endOffset) rb.m_startOffset) c_reservedSpace
  else sizeSub (sizeSub rb.m_startOffset rb.m_endOffset) c_reservedSpace

/-- Copies behind the used part; the end offset stays, `increaseUsedSpace` moves it. -/
def writeData (rb : RingBuffer) (data : List Byte) : ℤ × RingBuffer :=
  let remainSpace := rb.space
  if data.length > remainSpace then (-1, rb)
  else if rb.m_startOffset > rb.m_endOffset then
    (0, { rb with m_buffer := overwrite rb.m_buffer rb.m_endOffset data })
  else
    let spaceAfterEndOffset := throughInt (sizeSub rb.m_size rb.m_endOffset)
    if spaceAfterEndOffset > data.length then
      (0, { rb with m_buffer := overwrite rb.m_buffer rb.m_endOffset data })
    else
      (0, { rb with
        m_buffer := overwrite
          (overwrite rb.m_buffer rb.m_endOffset (data.take spaceAfterEndOffset)) 0
          (data.drop spaceAfterEndOffset) })

/-- Copies `size` bytes, `offset` bytes behind the start, into a vector of that size. -/
def readData (rb : RingBuffer) (size offset : ℕ) (data : List Byte) : ℤ × List Byte :=
  let usedDataLength := throughInt rb.dataLength
  if usedDataLength < size ∨ data.length ≠ size then (-1, data)
  else if rb.m_startOffset < rb.m_endOffset then
    (0, overwrite data 0 (slice rb.m_buffer (rb.m_startOffset + offset) size))
  else
    let firstCopySize := sizeSub rb.m_size (sizeAdd rb.m_startOffset offset)
    if size > firstCopySize then
      (0, overwrite
        (overwrite data 0 (slice rb.m_buffer (rb.m_startOffset + offset) firstCopySize))
        firstCopySize (slice rb.m_buffer 0 (sizeSub size firstCopySize)))
    else
      let startOffset := sizeAdd rb.m_startOffset offset % rb.m_size
      (0, overwrite data 0 (slice rb.m_buffer startOffset size))

def clear (rb : RingBuffer) : RingBuffer :=
  { rb with m_startOffset := 0, m_endOffset := 0 }

/-- The pointer and the length of the window behind the used part. -/
def getBufferAndLengthForWrite (rb : RingBuffer) : ℤ × Option (ℕ × ℕ) :=
  let remainSpace := rb.space
  if 0 = remainSpace then (-1, none)
  else
    let buffer := rb.m_endOffset
    if rb.m_startOffset ≤ rb.m_endOffset then
      if rb.m_startOffset ≥ c_reservedSpace then
        (0, some (buffer, sizeSub rb.m_size rb.m_endOffset))
      else
        (0, some (buffer, sizeSub
          (sizeSub rb.m_size (sizeSub c_reservedSpace rb.m_startOffset)) rb.m_endOffset))
    else
      (0, some (buffer, sizeSub (sizeSub rb.m_startOffset rb.m_endOffset) c_reservedSpace))

def increaseUsedSpace (rb : RingBuffer) (size : ℕ) : ℤ × RingBuffer :=
  if rb.space < size then (-1, rb)
  else (0, { rb with m_endOffset := sizeAdd rb.m_endOffset size % rb.m_size })

/-- A pointer to `size` contiguous bytes; `-2` when they go round the end of the block. -/
def getBufferForRead (rb : RingBuffer) (size : ℕ) : ℤ × Option ℕ :=
  if rb.dataLength < size then (-1, none)
  else if rb.m_startOffset < rb.m_endOffset then (0, some rb.m_startOffset)
  else if sizeSub rb.m_size rb.m_startOffset < size then (-2, none)
  else (0, some rb.m_startOffset)

/-- Drops the front of the used part; an empty buffer starts at offset `0` again. -/
def decreaseUsedSpace (rb : RingBuffer) (size : ℕ) : ℤ × RingBuffer :=
  let usedDataLength := rb.dataLength
  if usedDataLength < size then (-1, rb)
  else if rb.dataLength = size then (0, { rb with m_startOffset := 0, m_endOffset := 0 })
  else
    let startOffset := sizeAdd rb.m_startOffset size % rb.m_size
    if startOffset = rb.m_endOffset then (0, { rb with m_startOffset := 0, m_endOffset := 0 })
    else (0, { rb with m_startOffset := startOffset })

/-- The pointer and the length of the contiguous front, as the code computes the length. -/
def getContinuousData (rb : RingBuffer) : ℤ × Option (ℕ × ℕ) :=
  let usedDataLength := rb.dataLength
  if 0 = usedDataLength then (-1, none)
  else
    let buffer := rb.m_startOffset
    if rb.m_startOffset < rb.m_endOffset then
      (0, some (buffer, sizeSub rb.m_endOffset rb.m_startOffset))
    else if rb.m_endOffset ≤ c_reservedSpace then
      (0, some (buffer, sizeSub
        (sizeSub rb.m_size (sizeSub c_reservedSpace rb.m_endOffset)) rb.m_startOffset))
    else (0, some (buffer, sizeSub rb.m_size rb.m_startOffset))

end RingBuffer

end DistributedNetwork.Buffer
