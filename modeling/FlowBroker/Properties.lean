namespace FlowBroker

/-- A finite table of strings by string, kept as the list of its entries in ascending key order. -/
structure Properties where
  toList : List (String × String)
  ascending : toList.Pairwise (fun a b => a.1 < b.1)
  deriving DecidableEq

namespace Properties

def bind (k v : String) : List (String × String) → List (String × String)
  | [] => [(k, v)]
  | e :: es =>
      if k < e.1 then (k, v) :: e :: es else if k = e.1 then (k, v) :: es else e :: bind k v es

theorem key_of_mem_bind {k v : String} {e : String × String} {es : List (String × String)}
    (h : e ∈ bind k v es) : e.1 = k ∨ e ∈ es := by
  induction es with
  | nil => simp_all [bind]
  | cons d ds ih =>
      rw [bind] at h
      split at h
      · rcases List.mem_cons.1 h with rfl | h
        · exact .inl rfl
        · exact .inr h
      · split at h
        · rcases List.mem_cons.1 h with rfl | h
          · exact .inl rfl
          · exact .inr (List.mem_cons_of_mem _ h)
        · rcases List.mem_cons.1 h with rfl | h
          · exact .inr List.mem_cons_self
          · exact (ih h).imp_right (List.mem_cons_of_mem _)

theorem bind_ascending {k v : String} {es : List (String × String)}
    (h : es.Pairwise (fun a b => a.1 < b.1)) : (bind k v es).Pairwise (fun a b => a.1 < b.1) := by
  induction es with
  | nil => simp [bind]
  | cons d ds ih =>
      have hd := List.pairwise_cons.1 h
      rw [bind]
      split
      · next hlt =>
        refine List.pairwise_cons.2 ⟨fun z hz => ?_, h⟩
        rcases List.mem_cons.1 hz with rfl | hz
        · exact hlt
        · exact String.lt_trans hlt (hd.1 z hz)
      · next hnlt =>
        split
        · next heq => exact List.pairwise_cons.2 ⟨fun z hz => heq ▸ hd.1 z hz, hd.2⟩
        · next hne =>
          refine List.pairwise_cons.2 ⟨fun z hz => ?_, ih hd.2⟩
          rcases key_of_mem_bind hz with hk | hz
          · exact Classical.byContradiction fun hn =>
              hne (String.le_antisymm (hk ▸ String.not_lt.1 hn) (String.not_lt.1 hnlt))
          · exact hd.1 z hz

def empty : Properties := ⟨[], .nil⟩

def insert (p : Properties) (k v : String) : Properties :=
  ⟨bind k v p.toList, bind_ascending p.ascending⟩

def get? (p : Properties) (k : String) : Option String := p.toList.lookup k

def ofList (es : List (String × String)) : Properties :=
  es.foldl (fun p e => p.insert e.1 e.2) empty

theorem lookup_cons_eq_ite (z : String) (e : String × String) (es : List (String × String)) :
    (e :: es).lookup z = if z = e.1 then some e.2 else es.lookup z := by
  obtain ⟨k, v⟩ := e
  rw [List.lookup_cons]
  by_cases h : z = k
  · simp [h]
  · simp [h, beq_false_of_ne h]

theorem lookup_bind (k v z : String) (es : List (String × String)) :
    (bind k v es).lookup z = if z = k then some v else es.lookup z := by
  induction es with
  | nil => simp [bind, lookup_cons_eq_ite z]
  | cons d ds ih =>
      rw [bind]
      split
      · rw [lookup_cons_eq_ite]
      · split
        · next heq => subst heq; by_cases h : z = d.1 <;> simp [lookup_cons_eq_ite, h]
        · next hne =>
          rw [lookup_cons_eq_ite, lookup_cons_eq_ite, ih]
          by_cases h : z = d.1
          · simp [h, Ne.symm hne]
          · simp [h]

@[simp] theorem get?_insert (p : Properties) (k v z : String) :
    (p.insert k v).get? z = if z = k then some v else p.get? z :=
  lookup_bind k v z p.toList

@[simp] theorem get?_empty (z : String) : empty.get? z = none := rfl

theorem perm_bind {k v : String} {es : List (String × String)} (h : k ∉ es.map (·.1)) :
    (bind k v es).Perm ((k, v) :: es) := by
  induction es with
  | nil => exact .refl _
  | cons d ds ih =>
      rw [List.map_cons, List.mem_cons, not_or] at h
      rw [bind, if_neg h.1]
      split
      · exact .refl _
      · exact ((ih h.2).cons d).trans (.swap _ _ _)

theorem perm_foldl_insert {es : List (String × String)} {p : Properties}
    (h : ((p.toList ++ es).map (·.1)).Nodup) :
    (es.foldl (fun p e => p.insert e.1 e.2) p).toList.Perm (p.toList ++ es) := by
  induction es generalizing p with
  | nil => simp
  | cons e es ih =>
      have hmove : (p.toList ++ e :: es).Perm (e :: p.toList ++ es) := List.perm_middle
      have hnodup := (hmove.map (·.1)).nodup_iff.1 h
      have hfresh : e.1 ∉ p.toList.map (·.1) := by
        intro hmem
        rw [List.cons_append, List.map_cons, List.nodup_cons, List.map_append] at hnodup
        exact hnodup.1 (List.mem_append_left _ hmem)
      have hinsert : (p.insert e.1 e.2).toList.Perm (e :: p.toList) := perm_bind hfresh
      rw [List.foldl_cons]
      refine (ih ?_).trans ((hinsert.append_right es).trans hmove.symm)
      exact ((hinsert.append_right es).map (·.1)).nodup_iff.2 hnodup

theorem ext {p q : Properties} (h : p.toList = q.toList) : p = q := by
  cases p
  cases q
  cases h
  rfl

/-- The order in which a table is listed is nothing to it. -/
theorem ofList_of_perm {es : List (String × String)} {p : Properties} (h : es.Perm p.toList) :
    ofList es = p := by
  have hkeys : (es.map (·.1)).Nodup := by
    rw [(h.map (·.1)).nodup_iff, List.Nodup, List.pairwise_map]
    refine p.ascending.imp fun hlt heq => ?_
    exact String.lt_irrefl _ (heq ▸ hlt)
  have hperm : (ofList es).toList.Perm p.toList := (perm_foldl_insert (p := empty) hkeys).trans h
  exact ext (hperm.eq_of_pairwise (fun a b _ _ hab hba => absurd hba (String.lt_asymm hab))
    (ofList es).ascending p.ascending)

@[simp] theorem ofList_toList (p : Properties) : ofList p.toList = p :=
  ofList_of_perm (.refl _)

instance : Inhabited Properties := ⟨empty⟩

end Properties

end FlowBroker
