namespace FlowBroker

/-- A set of strings, kept as the ascending list of its members. -/
structure TypeSet where
  toList : List String
  ascending : toList.Pairwise (· < ·)
  deriving DecidableEq

namespace TypeSet

def place (x : String) : List String → List String
  | [] => [x]
  | y :: ys => if x < y then x :: y :: ys else if x = y then y :: ys else y :: place x ys

theorem mem_place {x z : String} {ys : List String} : z ∈ place x ys ↔ z = x ∨ z ∈ ys := by
  induction ys with
  | nil => simp [place]
  | cons y ys ih =>
      rw [place]
      split
      · simp
      · split
        · next h => simp [h]
        · simp only [List.mem_cons, ih]
          exact ⟨fun h => by rcases h with h | h | h <;> simp [h],
            fun h => by rcases h with h | h | h <;> simp [h]⟩

theorem place_ascending {x : String} {ys : List String} (h : ys.Pairwise (· < ·)) :
    (place x ys).Pairwise (· < ·) := by
  induction ys with
  | nil => simp [place]
  | cons y ys ih =>
      have hy := List.pairwise_cons.1 h
      rw [place]
      split
      · next hlt =>
        refine List.pairwise_cons.2 ⟨fun z hz => ?_, h⟩
        rcases List.mem_cons.1 hz with rfl | hz
        · exact hlt
        · exact String.lt_trans hlt (hy.1 z hz)
      · next hnlt =>
        split
        · exact h
        · next hne =>
          refine List.pairwise_cons.2 ⟨fun z hz => ?_, ih hy.2⟩
          rcases mem_place.1 hz with rfl | hz
          · rcases String.le_total z y with hle | hle
            · exact absurd (String.le_antisymm hle (String.not_lt.1 hnlt)) hne
            · exact Classical.byContradiction fun hn =>
                hne (String.le_antisymm (String.not_lt.1 hn) hle)
          · exact hy.1 z hz

def empty : TypeSet := ⟨[], .nil⟩

def insert (s : TypeSet) (x : String) : TypeSet :=
  ⟨place x s.toList, place_ascending s.ascending⟩

instance : Membership String TypeSet := ⟨fun s x => x ∈ s.toList⟩

instance (x : String) (s : TypeSet) : Decidable (x ∈ s) :=
  inferInstanceAs (Decidable (x ∈ s.toList))

theorem mem_def {x : String} {s : TypeSet} : x ∈ s ↔ x ∈ s.toList := Iff.rfl

@[simp] theorem mem_insert {x z : String} {s : TypeSet} : z ∈ s.insert x ↔ z = x ∨ z ∈ s :=
  mem_place

@[simp] theorem not_mem_empty (x : String) : x ∉ empty := List.not_mem_nil

def insertAll (s : TypeSet) (xs : List String) : TypeSet := xs.foldl insert s

def ofList (xs : List String) : TypeSet := empty.insertAll xs

def union (s t : TypeSet) : TypeSet := s.insertAll t.toList

theorem mem_insertAll {z : String} {xs : List String} {s : TypeSet} :
    z ∈ s.insertAll xs ↔ z ∈ s ∨ z ∈ xs := by
  induction xs generalizing s with
  | nil => simp [insertAll]
  | cons x xs ih =>
      show z ∈ (s.insert x).insertAll xs ↔ _
      rw [ih, mem_insert, List.mem_cons]
      exact ⟨fun h => by rcases h with (h | h) | h <;> simp [h],
        fun h => by rcases h with h | h | h <;> simp [h]⟩

@[simp] theorem mem_ofList {z : String} {xs : List String} : z ∈ ofList xs ↔ z ∈ xs := by
  simp [ofList, mem_insertAll]

@[simp] theorem mem_union {z : String} {s t : TypeSet} : z ∈ s.union t ↔ z ∈ s ∨ z ∈ t :=
  mem_insertAll

theorem ext {s t : TypeSet} (h : s.toList = t.toList) : s = t := by
  cases s
  cases t
  cases h
  rfl

theorem nodup_toList (s : TypeSet) : s.toList.Nodup := by
  refine s.ascending.imp ?_
  rintro x y hlt rfl
  exact String.lt_irrefl x hlt

theorem eq_of_mem_iff {s t : TypeSet} (h : ∀ x, x ∈ s ↔ x ∈ t) : s = t := by
  have hperm := (List.perm_ext_iff_of_nodup s.nodup_toList t.nodup_toList).2 h
  exact ext (hperm.eq_of_pairwise (fun a b _ _ hab hba => absurd hba (String.lt_asymm hab))
    s.ascending t.ascending)

@[simp] theorem ofList_toList (s : TypeSet) : ofList s.toList = s :=
  eq_of_mem_iff fun _ => mem_ofList

theorem mem_foldl_union {z : String} {sets : List TypeSet} {s : TypeSet} :
    z ∈ sets.foldl union s ↔ z ∈ s ∨ ∃ t ∈ sets, z ∈ t := by
  induction sets generalizing s with
  | nil => simp
  | cons t sets ih =>
      rw [List.foldl_cons, ih, mem_union, or_assoc]
      simp

instance : Inhabited TypeSet := ⟨empty⟩

end TypeSet

end FlowBroker
