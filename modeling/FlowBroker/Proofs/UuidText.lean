import FlowBroker.Uuid
import Mathlib.Data.List.SplitBy

namespace FlowBroker.Uuid

theorem digit?_digitChar (d : Fin 16) : digit? (digitChar d) = some d := by
  revert d
  decide

theorem digitChar_ne (d : Fin 16) :
    digitChar d ≠ '-' ∧ digitChar d ≠ '\x7b' ∧ digitChar d ≠ 'u' := by
  revert d
  decide

theorem mapM_digit? (ds : List (Fin 16)) : (ds.map digitChar).mapM digit? = some ds := by
  induction ds with
  | nil => rfl
  | cons d ds ih =>
      rw [List.map_cons, List.mapM_cons, digit?_digitChar, ih]
      rfl

theorem ofDigits?_map_digitChar (u : Uuid) : ofDigits? (u.digits.map digitChar) = some u := by
  rw [ofDigits?, mapM_digit?]
  exact dif_pos u.length_eq

theorem splitBy_dashes {a b c d e : List Char}
    (h : ∀ g ∈ [a, b, c, d, e], g ≠ [] ∧ '-' ∉ g) :
    (['-'].intercalate [a, b, c, d, e]).splitBy (fun x y => x != '-' && y != '-') =
      [a, ['-'], b, ['-'], c, ['-'], d, ['-'], e] := by
  have hchain : ∀ g ∈ [a, b, c, d, e], g.IsChain fun x y => (x != '-' && y != '-') = true := by
    intro g hg
    apply List.Pairwise.isChain
    refine List.pairwise_of_forall_mem_list fun x hx y hy => ?_
    have hne : ∀ z ∈ g, z ≠ '-' := fun z hz hdash => (h g hg).2 (hdash ▸ hz)
    simp [hne x hx, hne y hy]
  simp only [List.mem_cons, List.not_mem_nil, or_false, forall_eq_or_imp, forall_eq] at h hchain
  obtain ⟨ha, hb, hc, hd, he⟩ := h
  obtain ⟨hac, hbc, hcc, hdc, hec⟩ := hchain
  rw [List.splitBy_eq_iff]
  refine ⟨by simp [List.intercalate], ?_, ?_, ?_⟩
  · simp [ha.1, hb.1, hc.1, hd.1, he.1]
  · simp only [List.mem_cons, List.not_mem_nil, or_false, forall_eq_or_imp, forall_eq]
    exact ⟨hac, .singleton _, hbc, .singleton _, hcc, .singleton _, hdc, .singleton _, hec⟩
  · simp [ha.1, hb.1, hc.1, hd.1, he.1]

theorem exists_groups {cs : List Char} (h : cs.length = 32) :
    ∃ a b c d e, groups [8, 4, 4, 4] cs = [a, b, c, d, e] ∧ a ++ b ++ c ++ d ++ e = cs ∧
      a.length = 8 ∧ b.length = 4 ∧ c.length = 4 ∧ d.length = 4 ∧ e.length = 12 := by
  refine ⟨_, _, _, _, _, rfl, ?_, ?_, ?_, ?_, ?_, ?_⟩
  · simp only [List.append_assoc, List.take_append_drop]
  all_goals simp [h]

theorem ofGroups?_chars (u : Uuid) : ofGroups? u.chars = some u := by
  have hlength : (u.digits.map digitChar).length = 32 := by rw [List.length_map, u.length_eq]
  obtain ⟨a, b, c, d, e, hgroups, hjoin, ha, hb, hc, hd, he⟩ := exists_groups hlength
  have hdigits : ∀ g ∈ [a, b, c, d, e], g ≠ [] ∧ '-' ∉ g := by
    intro g hg
    have hdash : '-' ∉ a ++ b ++ c ++ d ++ e := by
      rw [hjoin, List.mem_map]
      rintro ⟨x, _, hx⟩
      exact (digitChar_ne x).1 hx
    simp only [List.mem_append, not_or] at hdash
    simp only [List.mem_cons, List.not_mem_nil, or_false] at hg
    rcases hg with rfl | rfl | rfl | rfl | rfl <;>
      exact ⟨fun hnil => by simp [hnil] at *, by simp [hdash]⟩
  rw [chars, hgroups, ofGroups?, splitBy_dashes hdigits]
  simp only [ha, hb, hc, hd, he, hjoin]
  exact ofDigits?_map_digitChar u

theorem exists_chars (u : Uuid) : ∃ d cs, u.chars = digitChar d :: cs ∧ '-' ∈ cs := by
  obtain ⟨ds, hlength⟩ := u
  cases ds with
  | nil => cases hlength
  | cons d ds =>
      refine ⟨d, _, rfl, ?_⟩
      simp

/-- The written form begins with a digit and has dashes, so that it is read as groups alone. -/
theorem parse?_toString (u : Uuid) : parse? u.toString = some u := by
  obtain ⟨d, cs, hchars, hdash⟩ := u.exists_chars
  obtain ⟨_, hbrace, hurn⟩ := digitChar_ne d
  have hgroups := ofGroups?_chars u
  have hlist : u.toString.toList = digitChar d :: cs := by
    rw [toString, String.toList_ofList, hchars]
  rw [hchars] at hgroups
  rw [parse?, hlist]
  split
  · next heq => exact absurd (List.cons.inj heq).1 hbrace
  · next heq => exact absurd (List.cons.inj heq).1 hurn
  · rw [if_pos (by simp [hdash]), hgroups]

end FlowBroker.Uuid
