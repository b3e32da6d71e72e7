import Mathlib.Data.List.Find
import Mathlib.Tactic.Common

/-!
# Hash tables with an equality of their own

A table keeps its entries in buckets: an entry is looked for in the bucket of the key only, with the equality
the table was given.  Nothing relates that equality to the hash, nor to the equality of the type.

* `HashTable.find` / `HashTable.emplace` — with any hash, and a rehash at every insertion;
* `Built` — the tables that insertions lead to, whatever the numbers of buckets on the way;
* `Built.find_eq` — where the table's equality is the equality, lookups do not depend on the buckets, and the
  table is the list of what was inserted.
-/

namespace DistributedNetwork.Library

universe u v

structure HashTable (Key : Type u) (Value : Type v) where
  bucketCount : ℕ
  entries : List (Key × Value)

variable {Key : Type u} {Value : Type v} {eq : Key → Key → Bool} {hash : Key → ℕ}
variable {t : HashTable Key Value} {key : Key}

namespace HashTable

/-- The entries in the bucket of a key. -/
def bucket (hash : Key → ℕ) (t : HashTable Key Value) (key : Key) : List (Key × Value) :=
  t.entries.filter fun entry => hash entry.1 % t.bucketCount = hash key % t.bucketCount

def find (eq : Key → Key → Bool) (hash : Key → ℕ) (t : HashTable Key Value) (key : Key) :
    Option (Key × Value) :=
  (t.bucket hash key).find? fun entry => eq entry.1 key

/-- Insert unless the key is found; an insertion may change the number of buckets. -/
def emplace (eq : Key → Key → Bool) (hash : Key → ℕ) (t : HashTable Key Value) (bucketCount : ℕ)
    (entry : Key × Value) : HashTable Key Value :=
  match t.find eq hash entry.1 with
  | some _ => t
  | none => ⟨bucketCount, t.entries ++ [entry]⟩

end HashTable

open HashTable

/-- The tables into which these entries were inserted, one after the other. -/
inductive Built (eq : Key → Key → Bool) (hash : Key → ℕ) :
    List (Key × Value) → HashTable Key Value → Prop
  | empty (bucketCount : ℕ) : Built eq hash [] ⟨bucketCount, []⟩
  | emplace {inserted : List (Key × Value)} {t : HashTable Key Value} (bucketCount : ℕ)
      (entry : Key × Value) :
      Built eq hash inserted t → Built eq hash (inserted ++ [entry]) (t.emplace eq hash bucketCount entry)

/-- The equality of the table is the equality, on these keys. -/
def LawfulOn (eq : Key → Key → Bool) (keys : List Key) : Prop :=
  ∀ a ∈ keys, ∀ b ∈ keys, eq a b = true ↔ a = b

theorem LawfulOn.subset {keys keys' : List Key} (h : LawfulOn eq keys) (hsub : keys' ⊆ keys) :
    LawfulOn eq keys' :=
  fun a ha b hb => h a (hsub ha) b (hsub hb)

/-- Nothing but what was inserted is in a table. -/
theorem Built.subset {inserted : List (Key × Value)} (h : Built eq hash inserted t) :
    t.entries ⊆ inserted := by
  induction h with
  | empty bucketCount => exact List.nil_subset _
  | emplace bucketCount entry h ih =>
    unfold HashTable.emplace
    split
    · exact List.subset_append_of_subset_left _ ih
    · exact List.append_subset.mpr ⟨List.subset_append_of_subset_left _ ih, List.subset_append_right _ _⟩

section Lawful

variable [DecidableEq Key]

/-- **The buckets do not matter**: equal keys are in one bucket. -/
theorem HashTable.find_eq_find? (hlawful : LawfulOn eq (key :: t.entries.map Prod.fst)) :
    t.find eq hash key = t.entries.find? fun entry => entry.1 = key := by
  rw [find, bucket, List.find?_filter]
  apply List.find?_congr
  intro entry hentry
  have heq := hlawful entry.1 (List.mem_cons_of_mem _ (List.mem_map_of_mem hentry)) key List.mem_cons_self
  by_cases hkey : entry.1 = key
  · simp [hkey, hkey ▸ heq]
  · have hne : eq entry.1 key = false := by simpa using fun h => hkey (heq.mp h)
    simp [hkey, hne]

/-- **A table is what was inserted**, the first entry of a key counting. -/
theorem Built.find_eq {inserted : List (Key × Value)} (h : Built eq hash inserted t)
    (hlawful : LawfulOn eq (key :: inserted.map Prod.fst)) :
    t.find eq hash key = inserted.find? fun entry => entry.1 = key := by
  have hkeys : key :: t.entries.map Prod.fst ⊆ key :: inserted.map Prod.fst :=
    List.cons_subset_cons _ (List.map_subset _ h.subset)
  rw [find_eq_find? (hlawful.subset hkeys)]
  clear hkeys
  induction h generalizing key with
  | empty bucketCount => rfl
  | @emplace inserted t bucketCount entry h ih =>
    have hbefore : LawfulOn eq (entry.1 :: inserted.map Prod.fst) := by
      refine hlawful.subset ?_
      intro a ha
      simp at ha ⊢
      tauto
    have hfind : t.find eq hash entry.1 = inserted.find? fun other => other.1 = entry.1 := by
      have hkeys : entry.1 :: t.entries.map Prod.fst ⊆ entry.1 :: inserted.map Prod.fst :=
        List.cons_subset_cons _ (List.map_subset _ h.subset)
      rw [find_eq_find? (hbefore.subset hkeys)]
      exact ih hbefore
    have hkey : LawfulOn eq (key :: inserted.map Prod.fst) := by
      refine hlawful.subset ?_
      intro a ha
      simp at ha ⊢
      tauto
    rw [List.find?_append]
    unfold HashTable.emplace
    rw [hfind]
    cases hfound : inserted.find? (fun other => decide (other.1 = entry.1)) with
    | some other =>
      dsimp only
      rw [ih hkey]
      by_cases heq : entry.1 = key
      · rw [← heq, hfound]
        rfl
      · rw [List.find?_singleton]
        simp [heq]
    | none =>
      dsimp only
      rw [List.find?_append, ih hkey]

/-- A key that was inserted is found, with its own entry. -/
theorem Built.find_self {inserted : List (Key × Value)} (h : Built eq hash inserted t)
    (hlawful : LawfulOn eq (inserted.map Prod.fst)) (hkey : key ∈ inserted.map Prod.fst) :
    ∃ value, t.find eq hash key = some (key, value) := by
  have hkeys : key :: inserted.map Prod.fst ⊆ inserted.map Prod.fst :=
    List.cons_subset.mpr ⟨hkey, fun _ ha => ha⟩
  rw [h.find_eq (hlawful.subset hkeys)]
  obtain ⟨entry, hentry, rfl⟩ := List.mem_map.mp hkey
  cases hfound : inserted.find? (fun other => decide (other.1 = entry.1)) with
  | some other =>
    have hsame : other.1 = entry.1 := by simpa using List.find?_some hfound
    exact ⟨other.2, by rw [← hsame]⟩
  | none =>
    have hnot := List.find?_eq_none.mp hfound entry hentry
    simp at hnot

end Lawful

end DistributedNetwork.Library
