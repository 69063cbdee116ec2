import Mathlib.Data.List.AList

/-!
# `std::collections::HashMap`

The maps of `Server::bind` (`addresses`, `connections`) as association lists with distinct
keys: Mathlib's `AList`, whose `nodupKeys` field makes a map with a repeated key impossible to
build. The operations keep the Rust methods' names and results: `remove` hands back the value it
took out, and a write through `get_mut` or `iter_mut` is `set`, which leaves the entry in its
place. A Rust `HashMap` iterates in an unspecified order; the model iterates over `entries`.

Every later proof reads a map through `get` after an update (`get_insert`, `get_remove`,
`get_set`) and never unfolds the operations.
-/

namespace Cobalt

/-- `HashMap<K, V>`. -/
abbrev HashMap (K V : Type) := AList (fun _ : K => V)

namespace HashMap

variable {K V : Type} [DecidableEq K]

/-- `HashMap::new()`. -/
def new : HashMap K V := ∅

/-- `map.contains_key(&k)`. -/
def containsKey (m : HashMap K V) (k : K) : Bool := decide (k ∈ m)

/-- `map.get(&k)`. -/
def get (m : HashMap K V) (k : K) : Option V := m.lookup k

/-- `map.insert(k, v)`, replacing the value of a present key. -/
def insert (m : HashMap K V) (k : K) (v : V) : HashMap K V := AList.insert k v m

/-- `map.remove(&k)`: the removed value (if any) and the map without `k`. -/
def remove (m : HashMap K V) (k : K) : Option V × HashMap K V := (m.lookup k, m.erase k)

/-- `*map.get_mut(&k).unwrap() = v`: the value of a present key, written in place. -/
def set (m : HashMap K V) (k : K) (v : V) : HashMap K V := AList.replace k v m

/-! ## Reading after an update -/

@[simp] theorem get_new (k : K) : (new : HashMap K V).get k = none := rfl

omit [DecidableEq K] in
@[simp] theorem not_mem_new (k : K) : k ∉ (new : HashMap K V) := AList.not_mem_empty k

theorem mem_iff_get {m : HashMap K V} {k : K} : k ∈ m ↔ (m.get k).isSome :=
  AList.lookup_isSome.symm

theorem get_eq_none {m : HashMap K V} {k : K} : m.get k = none ↔ k ∉ m :=
  AList.lookup_eq_none

@[simp] theorem containsKey_iff {m : HashMap K V} {k : K} : m.containsKey k = true ↔ k ∈ m :=
  decide_eq_true_iff

theorem get_insert (m : HashMap K V) (k k' : K) (v : V) :
    (m.insert k v).get k' = if k' = k then some v else m.get k' := by
  split
  · subst k'; exact AList.lookup_insert m
  · exact AList.lookup_insert_ne ‹_›

@[simp] theorem mem_insert {m : HashMap K V} {k k' : K} {v : V} :
    k' ∈ m.insert k v ↔ k' = k ∨ k' ∈ m :=
  AList.mem_insert m

@[simp] theorem remove_fst (m : HashMap K V) (k : K) : (m.remove k).1 = m.get k := rfl

theorem get_remove (m : HashMap K V) (k k' : K) :
    (m.remove k).2.get k' = if k' = k then none else m.get k' := by
  split
  · subst k'; exact AList.lookup_erase k m
  · exact AList.lookup_erase_ne ‹_›

@[simp] theorem mem_remove {m : HashMap K V} {k k' : K} :
    k' ∈ (m.remove k).2 ↔ k' ≠ k ∧ k' ∈ m :=
  AList.mem_erase

theorem dlookup_kreplace (k k' : K) (v : V) :
    ∀ l : List (Sigma fun _ : K => V),
      (l.kreplace k v).dlookup k' = if k' = k ∧ k ∈ l.keys then some v else l.dlookup k'
  | [] => by simp [List.kreplace, List.lookmap_nil]
  | ⟨j, w⟩ :: l => by
    let f : (Sigma fun _ : K => V) → Option (Sigma fun _ : K => V) :=
      fun s => if k = s.1 then some ⟨k, v⟩ else none
    by_cases hj : k = j
    · subst hj
      have hf : f ⟨k, w⟩ = some ⟨k, v⟩ := if_pos rfl
      rw [List.kreplace, List.lookmap_cons_some _ _ hf]
      by_cases hk : k' = k
      · subst hk; simp [List.dlookup_cons_eq]
      · simp [List.dlookup_cons_ne l (⟨k, v⟩ : Sigma fun _ : K => V) hk,
          List.dlookup_cons_ne l (⟨k, w⟩ : Sigma fun _ : K => V) hk, hk]
    · have hf : f ⟨j, w⟩ = none := if_neg hj
      rw [List.kreplace, List.lookmap_cons_none _ _ hf, ← List.kreplace]
      by_cases hk : k' = j
      · subst hk; simp [List.dlookup_cons_eq, Ne.symm hj]
      · simp only [List.dlookup_cons_ne _ (⟨j, w⟩ : Sigma fun _ : K => V) hk,
          dlookup_kreplace k k' v l, List.keys_cons, List.mem_cons, hj, false_or]

theorem get_set (m : HashMap K V) (k k' : K) (v : V) :
    (m.set k v).get k' = if k' = k ∧ k ∈ m then some v else m.get k' := by
  simp only [get, set, AList.lookup, AList.replace, dlookup_kreplace, AList.mem_keys, AList.keys]

@[simp] theorem mem_set {m : HashMap K V} {k k' : K} {v : V} : k' ∈ m.set k v ↔ k' ∈ m :=
  AList.mem_replace

@[simp] theorem keys_set (m : HashMap K V) (k : K) (v : V) : (m.set k v).keys = m.keys :=
  AList.keys_replace ..

end HashMap

end Cobalt
