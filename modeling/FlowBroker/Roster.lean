namespace FlowBroker

variable {α : Type}

/-- Entries in the order in which their keys arrived. -/
structure Roster (key : α → String) where
  toList : List α
  distinct : (toList.map key).Nodup

namespace Roster

variable {key : α → String}

/-- Puts an entry into the place of the one with its key, or at the end. -/
def place (key : α → String) (a : α) : List α → List α
  | [] => [a]
  | b :: bs => if key b = key a then a :: bs else b :: place key a bs

theorem map_key_place (a : α) (bs : List α) :
    (place key a bs).map key =
      if key a ∈ bs.map key then bs.map key else bs.map key ++ [key a] := by
  induction bs with
  | nil => simp [place]
  | cons b bs ih =>
      rw [place]
      split
      · next h => simp [h]
      · next h =>
        rw [List.map_cons, ih]
        by_cases hm : key a ∈ bs.map key
        · simp [hm]
        · simp [hm, Ne.symm h]

def empty : Roster key := ⟨[], .nil⟩

def put (r : Roster key) (a : α) : Roster key where
  toList := place key a r.toList
  distinct := by
    rw [map_key_place]
    split
    · exact r.distinct
    · next h =>
      refine List.nodup_append.2 ⟨r.distinct, by simp, ?_⟩
      intro x hx y hy
      rw [List.mem_singleton.1 hy]
      exact fun hxy => h (hxy ▸ hx)

def find? (r : Roster key) (k : String) : Option α := r.toList.find? fun a => key a = k

def erase (r : Roster key) (k : String) : Roster key where
  toList := r.toList.filter fun a => key a ≠ k
  distinct := r.distinct.sublist (List.filter_sublist.map key)

def size (r : Roster key) : Nat := r.toList.length

def isEmpty (r : Roster key) : Bool := r.toList.isEmpty

def ofList (as : List α) : Roster key := as.foldl put empty

instance : Inhabited (Roster key) := ⟨empty⟩

theorem ext {r t : Roster key} (h : r.toList = t.toList) : r = t := by
  cases r
  cases t
  cases h
  rfl

theorem place_of_not_mem {a : α} {bs : List α} (h : key a ∉ bs.map key) :
    place key a bs = bs ++ [a] := by
  induction bs with
  | nil => rfl
  | cons b bs ih =>
      rw [List.map_cons, List.mem_cons, not_or] at h
      rw [place, if_neg (Ne.symm h.1), ih h.2, List.cons_append]

theorem place_of_mem {a : α} {bs : List α} (hd : (bs.map key).Nodup) (h : key a ∈ bs.map key) :
    place key a bs = bs.map fun b => if key b = key a then a else b := by
  induction bs with
  | nil => simp at h
  | cons b bs ih =>
      rw [List.map_cons, List.nodup_cons] at hd
      rw [place]
      split
      · next hb =>
        have hrest : ∀ c ∈ bs, key c ≠ key a := fun c hc hca =>
          hd.1 (hb ▸ hca ▸ List.mem_map_of_mem hc)
        rw [List.map_cons, if_pos hb, List.map_congr_left fun c hc => if_neg (hrest c hc),
          List.map_id']
      · next hb =>
        have hm : key a ∈ bs.map key := by simpa [Ne.symm hb] using h
        rw [List.map_cons, if_neg hb, ih hd.2 hm]

theorem find?_place (a : α) (k : String) (bs : List α) :
    ((place key a bs).find? fun b => key b = k) =
      if k = key a then some a else bs.find? fun b => key b = k := by
  induction bs with
  | nil => by_cases h : key a = k <;> simp [place, h, eq_comm]
  | cons b bs ih =>
      rw [place]
      split
      · next hb =>
        by_cases h : key a = k
        · simp [h]
        · simp [hb, h, Ne.symm h]
      · next hb =>
        rw [List.find?_cons, ih, List.find?_cons]
        by_cases h : key b = k
        · subst h
          simp [hb]
        · simp [h]

theorem find?_eq_some_iff {r : Roster key} {k : String} {a : α} :
    r.find? k = some a ↔ a ∈ r.toList ∧ key a = k := by
  obtain ⟨as, hd⟩ := r
  simp only [find?]
  induction as with
  | nil => simp
  | cons b bs ih =>
      rw [List.map_cons, List.nodup_cons] at hd
      rw [List.find?_cons, List.mem_cons]
      by_cases hb : key b = k
      · have hne : ¬(a ∈ bs ∧ key a = k) := fun ⟨ha, hk⟩ =>
          hd.1 (hb ▸ hk ▸ List.mem_map_of_mem ha)
        simp only [hb, decide_true, Option.some.injEq]
        exact ⟨fun h => ⟨.inl h.symm, h ▸ hb⟩, fun ⟨h, hk⟩ =>
          h.elim Eq.symm fun ha => absurd ⟨ha, hk⟩ hne⟩
      · simp only [hb, decide_false, ih hd.2]
        exact ⟨fun ⟨ha, hk⟩ => ⟨.inr ha, hk⟩, fun ⟨ha, hk⟩ =>
          ⟨ha.resolve_left fun h => hb (h ▸ hk), hk⟩⟩

theorem find?_eq_none_iff {r : Roster key} {k : String} :
    r.find? k = none ↔ k ∉ r.toList.map key := by
  simp [find?]

@[simp] theorem find?_empty (k : String) : (empty : Roster key).find? k = none := rfl

@[simp] theorem find?_put (r : Roster key) (a : α) (k : String) :
    (r.put a).find? k = if k = key a then some a else r.find? k :=
  find?_place a k r.toList

@[simp] theorem find?_erase (r : Roster key) (j k : String) :
    (r.erase j).find? k = if k = j then none else r.find? k := by
  rw [find?, erase, List.find?_filter]
  split
  · next h =>
    subst h
    simp
  · next h =>
    rw [find?]
    congr
    funext a
    by_cases ha : key a = k <;> simp [ha, h]

theorem toList_put_of_absent {r : Roster key} {a : α} (h : r.find? (key a) = none) :
    (r.put a).toList = r.toList ++ [a] :=
  place_of_not_mem (find?_eq_none_iff.1 h)

theorem toList_put_of_present {r : Roster key} {a : α} (h : r.find? (key a) ≠ none) :
    (r.put a).toList = r.toList.map fun b => if key b = key a then a else b :=
  place_of_mem r.distinct (Classical.not_not.1 fun hm => h (find?_eq_none_iff.2 hm))

theorem erase_of_absent {r : Roster key} {k : String} (h : r.find? k = none) : r.erase k = r := by
  apply ext
  rw [erase, List.filter_eq_self]
  intro a ha
  have hk : key a ≠ k := fun hk => find?_eq_none_iff.1 h (hk ▸ List.mem_map_of_mem ha)
  simpa using hk

theorem erase_erase (r : Roster key) (k : String) : (r.erase k).erase k = r.erase k :=
  erase_of_absent (by simp)

end Roster

end FlowBroker
