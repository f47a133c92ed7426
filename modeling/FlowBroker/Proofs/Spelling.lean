import FlowBroker.Proofs.RecordRoundTrip
import Mathlib.Data.List.Forall2

namespace FlowBroker

theorem exists_of_forall₂ {α β : Type*} {R : α → β → Prop} {as : List α} {bs : List β}
    (h : List.Forall₂ R as bs) {a : α} (ha : a ∈ as) : ∃ b ∈ bs, R a b := by
  induction h with
  | nil => cases ha
  | cons hab _ ih =>
      rcases List.mem_cons.1 ha with rfl | ha
      · exact ⟨_, List.mem_cons_self, hab⟩
      · obtain ⟨b, hb, hR⟩ := ih ha
        exact ⟨b, List.mem_cons_of_mem _ hb, hR⟩

theorem Source.mapM_eq_ok_iff {α δ : Type} {decode : δ → Decoded α} {ds : List δ} {as : List α} :
    ds.mapM decode = .ok as ↔ List.Forall₂ (fun d a => decode d = .ok a) ds as := by
  induction ds generalizing as with
  | nil =>
      rw [List.mapM_nil, List.forall₂_nil_left_iff]
      exact ⟨fun h => (Except.ok.inj h).symm, fun h => h ▸ rfl⟩
  | cons d ds ih =>
      rw [List.mapM_cons, Record.bind_eq_ok, List.forall₂_cons_left_iff]
      refine exists_congr fun a => ?_
      rw [Record.bind_eq_ok]
      constructor
      · rintro ⟨ha, rest, hrest, has⟩
        exact ⟨rest, ha, ih.1 hrest, (Except.ok.inj has).symm⟩
      · rintro ⟨rest, ha, hrest, rfl⟩
        exact ⟨ha, rest, ih.2 hrest, rfl⟩

/-- What documents say about the values of a type. -/
structure Spelling (α : Type) where
  Spells : Json → α → Prop
  Repeats : Json → Prop

namespace Spelling

variable {α ρ : Type}

def plain (spells : Json → α → Prop) : Spelling α := ⟨spells, fun _ => False⟩

def text : Spelling String := plain fun j s => j = .string s

def flag : Spelling Bool := plain fun j b => j = .bool b

def natural : Spelling UInt64 := plain fun j n => j = .number (.integer n.toNat)

def url : Spelling Url := plain fun j u => ∃ t, j = .string t ∧ Url.parse t = .ok u

def uuid : Spelling Uuid := plain fun j u => ∃ t, j = .string t ∧ Uuid.parse? t = some u

def typeSet : Spelling TypeSet :=
  plain fun j s => ∃ ts : List String, j = .array (ts.map .string) ∧ ∀ t, t ∈ ts ↔ t ∈ s

def properties : Spelling Properties :=
  plain fun j p => ∃ es : List (String × String),
    j = .object (es.map fun e => (e.1, .string e.2)) ∧ es.Perm p.toList

def option (S : Spelling α) : Spelling (Option α) where
  Spells j o := o.elim (j = .null) (S.Spells j)
  Repeats := S.Repeats

def list (S : Spelling α) : Spelling (List α) where
  Spells j as := ∃ js, j = .array js ∧ List.Forall₂ S.Spells js as
  Repeats j := ∃ js, j = .array js ∧ ∃ item ∈ js, S.Repeats item

/-- A member in the documents for records: its names, what it is spelled like, the value that it has
in a record, and the one that it need not be there for. -/
structure Member (ρ : Type) where
  {α : Type}
  names : List String
  spelling : Spelling α
  value : ρ → α
  default : Option α

namespace Member

/-- The one member under these names has the value of the record, or there is none and the value is
the default. -/
def Given (m : Member ρ) (r : ρ) (ms : List (String × Json)) : Prop :=
  (∃ n, ms.filter (fun n => n.1 ∈ m.names) = [n] ∧ m.spelling.Spells n.2 (m.value r)) ∨
    ms.filter (fun n => n.1 ∈ m.names) = [] ∧ m.default = some (m.value r)

def Repeated (m : Member ρ) (ms : List (String × Json)) : Prop :=
  1 < (ms.countP fun n => n.1 ∈ m.names) ∨ ∃ n ∈ ms, n.1 ∈ m.names ∧ m.spelling.Repeats n.2

end Member

structure Presents (members : List (Member ρ)) (r : ρ) (ms : List (String × Json)) : Prop where
  given : ∀ m ∈ members, m.Given r ms
  others : ∀ n ∈ ms, (∀ m ∈ members, n.1 ∉ m.names) → n.2.skippable = true

/-- Records, as objects or as the arrays of their fields. -/
def record (members : List (Member ρ)) : Spelling ρ where
  Spells j r := match j with
    | .object ms => Presents members r ms
    | .array js => List.Forall₂ (fun m j => m.spelling.Spells j (m.value r)) members js
    | _ => False
  Repeats j := match j with
    | .object ms => ∃ m ∈ members, m.Repeated ms
    | .array js => ∃ x ∈ members.zip js, x.1.spelling.Repeats x.2
    | _ => False

theorem spells_object {members : List (Member ρ)} {r : ρ} {ms : List (String × Json)}
    (hgiven : ∀ m ∈ members, m.Given r ms) (hskip : ∀ n ∈ ms, n.2.skippable = true) :
    (record members).Spells (.object ms) r :=
  ⟨hgiven, fun n hn _ => hskip n hn⟩

/-- The decoder reads all spellings of a value as that value, and nothing that repeats a member. -/
structure IsReadBy (S : Spelling α) (decode : Json → Decoded α) : Prop where
  of_spells : ∀ j a, S.Spells j a → decode j = .ok a
  of_repeats : ∀ j, S.Repeats j → ∃ e, decode j = .error e

namespace IsReadBy

theorem plain {spells : Json → α → Prop} {decode : Json → Decoded α}
    (h : ∀ j a, spells j a → decode j = .ok a) : (Spelling.plain spells).IsReadBy decode :=
  ⟨h, nofun⟩

theorem text : Spelling.text.IsReadBy Source.string := by
  refine plain ?_
  rintro _ s rfl
  rfl

theorem flag : Spelling.flag.IsReadBy Source.flag := by
  refine plain ?_
  rintro _ b rfl
  rfl

theorem natural : Spelling.natural.IsReadBy Source.natural := by
  refine plain ?_
  rintro _ n rfl
  exact Source.natural_ofNat n

theorem url : Spelling.url.IsReadBy Source.url := by
  refine plain ?_
  rintro _ u ⟨t, rfl, ht⟩
  have htext : Source.text "a string representing an URL" (Json.string t) = .ok t := rfl
  rw [Source.url, htext]
  simp only [bind, Except.bind, ht]
  rfl

theorem uuid : Spelling.uuid.IsReadBy Source.uuid := by
  refine plain ?_
  rintro _ u ⟨t, rfl, ht⟩
  have htext : Source.text "a formatted UUID string" (Json.string t) = .ok t := rfl
  rw [Source.uuid, htext]
  simp only [bind, Except.bind, ht]
  rfl

theorem typeSet : Spelling.typeSet.IsReadBy Source.typeSet := by
  refine plain ?_
  rintro _ s ⟨ts, rfl, hts⟩
  have hlist : Source.list Source.string (Json.array (ts.map .string)) = .ok ts :=
    Source.list_array fun _ _ => rfl
  have hset : TypeSet.ofList ts = s :=
    TypeSet.eq_of_mem_iff fun t => TypeSet.mem_ofList.trans (hts t)
  rw [Source.typeSet, hlist]
  exact congrArg Except.ok hset

theorem properties : Spelling.properties.IsReadBy Source.properties := by
  refine plain ?_
  rintro _ p ⟨es, rfl, hperm⟩
  let members := es.map fun e => (e.1, Json.string e.2)
  have hentries : Source.entries (Json.object members) = .ok ⟨members, none, .missingField⟩ := rfl
  have hmembers : members.mapM (fun m => (m.1, ·) <$> Source.string m.2) = .ok es :=
    Source.mapM_map fun _ _ => rfl
  rw [Source.properties, hentries]
  simp only [bind, Except.bind, hmembers]
  exact congrArg Except.ok (Properties.ofList_of_perm hperm)

theorem option {S : Spelling α} {decode : Json → Decoded α} (h : S.IsReadBy decode)
    (hnull : ∀ a, ¬S.Spells .null a) (hplain : ¬S.Repeats .null) :
    S.option.IsReadBy (Source.option decode) := by
  constructor
  · intro j o hj
    cases o with
    | none =>
        obtain rfl : j = .null := hj
        rfl
    | some a =>
        refine Source.option_some (h.of_spells j a hj) ?_
        rintro rfl
        exact hnull a hj
  · intro j hj
    obtain ⟨e, he⟩ := h.of_repeats j hj
    have hne : j ≠ .null := by
      rintro rfl
      exact hplain hj
    rw [Source.option, Source.optional_of_ne_null hne]
    simp only [bind, Except.bind, he]
    exact ⟨e, rfl⟩

theorem list {S : Spelling α} {decode : Json → Decoded α} (h : S.IsReadBy decode) :
    S.list.IsReadBy (Source.list decode) := by
  constructor
  · rintro _ as ⟨js, rfl, hjs⟩
    exact Source.mapM_eq_ok_iff.2 (hjs.imp h.of_spells)
  · rintro _ ⟨js, rfl, item, hitem, hrepeats⟩
    obtain ⟨e, he⟩ := h.of_repeats item hrepeats
    cases hread : Source.list decode (Json.array js) with
    | error e => exact ⟨e, rfl⟩
    | ok as =>
        have hforall := Source.mapM_eq_ok_iff.1 hread
        obtain ⟨a, -, ha⟩ := exists_of_forall₂ hforall hitem
        rw [he] at ha
        cases ha

end IsReadBy

namespace Member

section

variable {m : Member ρ} {r : ρ} {n : String × Json} {ms : List (String × Json)}

theorem given_cons_iff (h : n.1 ∉ m.names) : m.Given r (n :: ms) ↔ m.Given r ms := by
  rw [Given, Given, List.filter_cons_of_neg (by simpa using h)]

theorem Given.countP_le_one (h : m.Given r ms) : (ms.countP fun n => n.1 ∈ m.names) ≤ 1 := by
  rw [List.countP_eq_length_filter]
  rcases h with ⟨n, hn, _⟩ | ⟨hnone, _⟩
  · rw [hn]
    exact Nat.le_refl 1
  · rw [hnone]
    exact Nat.zero_le 1

theorem Given.spells_of_mem (h : m.Given r ms) (hn : n ∈ ms) (hname : n.1 ∈ m.names) :
    m.spelling.Spells n.2 (m.value r) := by
  have hmem : n ∈ ms.filter fun n => n.1 ∈ m.names := List.mem_filter.2 ⟨hn, by simpa⟩
  rcases h with ⟨n', hn', hspells⟩ | ⟨hnone, _⟩
  · rw [hn', List.mem_singleton] at hmem
    exact hmem ▸ hspells
  · rw [hnone] at hmem
    cases hmem

end

structure Checks (m : Member ρ) (f : Field Json Unit) : Prop where
  names_eq : f.names = m.names
  of_spells : ∀ j a, m.spelling.Spells j a → f.decode j = .ok ()
  of_repeats : ∀ j, m.spelling.Repeats j → f.decode j ≠ .ok ()

variable {S : Spelling α} {f : Field Json α} {value : ρ → α} {r : ρ} {s : Shown Json}

theorem checks_of_isReadBy {default : Option α} (h : S.IsReadBy f.decode) :
    Checks ⟨f.names, S, value, default⟩ f.check := by
  refine ⟨rfl, fun j a hj => Record.check_decode (h.of_spells j a hj), ?_⟩
  intro j hj hcheck
  obtain ⟨e, he⟩ := h.of_repeats j hj
  simp only [Field.check, he, Except.map] at hcheck
  cases hcheck

theorem member?_eq :
    Record.member? f s = (s.members.filter fun n => n.1 ∈ f.names).head?.map (·.2) := by
  rw [Record.member?, List.head?_filter]
  simp only [List.contains_eq_mem]

theorem required_of_given (h : S.IsReadBy f.decode)
    (hgiven : Given ⟨f.names, S, value, none⟩ r s.members) :
    Record.required f s = .ok (value r) := by
  rw [Record.required, member?_eq]
  rcases hgiven with ⟨n, hn, hspells⟩ | ⟨_, hvalue⟩
  · rw [hn]
    exact h.of_spells n.2 (value r) hspells
  · cases hvalue

theorem defaulted_of_given {default : α} (h : S.IsReadBy f.decode)
    (hgiven : Given ⟨f.names, S, value, some default⟩ r s.members) :
    Record.defaulted f default s = .ok (value r) := by
  rw [Record.defaulted, member?_eq]
  rcases hgiven with ⟨n, hn, hspells⟩ | ⟨hnone, hvalue⟩
  · rw [hn]
    exact h.of_spells n.2 (value r) hspells
  · rw [hnone]
    exact congrArg Except.ok (Option.some.inj hvalue)

end Member

section

variable {members : List (Member ρ)} {fields : List (Field Json Unit)} {r : ρ}
  {ms : List (String × Json)}

theorem readable_of_presents (hchecks : List.Forall₂ Member.Checks members fields)
    (hnames : (fields.flatMap (·.names)).Nodup) (h : Presents members r ms) :
    Record.Readable fields ms := by
  constructor
  · rw [Record.nodup_subjects_iff hnames]
    intro f hf
    obtain ⟨m, hm, hcheck⟩ := exists_of_forall₂ hchecks.flip hf
    rw [hcheck.names_eq]
    exact (h.given m hm).countP_le_one
  · intro n hn
    rw [Record.Sound]
    cases hfield : Record.field? fields n.1 with
    | none =>
        have hother : ∀ m ∈ members, n.1 ∉ m.names := by
          intro m hm hname
          obtain ⟨f, hf, hcheck⟩ := exists_of_forall₂ hchecks hm
          rw [← hcheck.names_eq] at hname
          rw [Record.field?_of_mem hnames hf hname] at hfield
          cases hfield
        exact if_pos (h.others n hn hother)
    | some f =>
        obtain ⟨hf, hname⟩ := Record.mem_of_field?_eq hfield
        obtain ⟨m, hm, hcheck⟩ := exists_of_forall₂ hchecks.flip hf
        rw [hcheck.names_eq] at hname
        exact hcheck.of_spells n.2 (m.value r) ((h.given m hm).spells_of_mem hn hname)

theorem not_readable_of_repeated (hchecks : List.Forall₂ Member.Checks members fields)
    (hnames : (fields.flatMap (·.names)).Nodup) {m : Member ρ} (hm : m ∈ members)
    (h : m.Repeated ms) : ¬Record.Readable fields ms := by
  intro hreadable
  obtain ⟨f, hf, hcheck⟩ := exists_of_forall₂ hchecks hm
  rcases h with htwice | ⟨n, hn, hname, hrepeats⟩
  · have honce := (Record.nodup_subjects_iff hnames).1 hreadable.once f hf
    rw [hcheck.names_eq] at honce
    exact Nat.not_lt.2 honce htwice
  · have hsound := hreadable.sound n hn
    rw [← hcheck.names_eq] at hname
    rw [Record.Sound, Record.field?_of_mem hnames hf hname] at hsound
    exact hcheck.of_repeats n.2 hrepeats hsound

/-- The array of the fields stands for the members under their first names. -/
theorem given_zip (hchecks : List.Forall₂ Member.Checks members fields)
    (hnames : (fields.flatMap (·.names)).Nodup) {js : List Json}
    (hjs : List.Forall₂ (fun m j => m.spelling.Spells j (m.value r)) members js) :
    ∀ m ∈ members, m.Given r ((fields.map (·.name)).zip js) := by
  induction hchecks generalizing js with
  | nil => exact nofun
  | @cons m f members fields hcheck hchecks ih =>
      obtain ⟨j, js, hj, htail, rfl⟩ := List.forall₂_cons_left_iff.1 hjs
      rw [List.flatMap_cons, List.nodup_append] at hnames
      obtain ⟨_, hrest, hapart⟩ := hnames
      -- No later item is under a name of the first field, and the first under none of the others'.
      have hother : ∀ g ∈ fields, ∀ name ∈ g.names, name ∉ f.names :=
        fun g hg name hname hf => hapart name hf name (List.mem_flatMap.2 ⟨g, hg, hname⟩) rfl
      rw [List.map_cons, List.zip_cons_cons, List.forall_mem_cons]
      constructor
      · have hnone : ((fields.map (·.name)).zip js).filter (fun n => n.1 ∈ m.names) = [] := by
          refine List.filter_eq_nil_iff.2 fun n hn => ?_
          obtain ⟨g, hg, hname⟩ := List.mem_map.1 (List.of_mem_zip hn).1
          rw [← hname, ← hcheck.names_eq, decide_eq_true_iff]
          exact hother g hg g.name List.mem_cons_self
        have hfirst : f.name ∈ m.names := hcheck.names_eq ▸ List.mem_cons_self
        refine .inl ⟨(f.name, j), ?_, hj⟩
        rw [List.filter_cons, if_pos (decide_eq_true hfirst), hnone]
      · intro m' hm'
        obtain ⟨g, hg, hcheck'⟩ := exists_of_forall₂ hchecks hm'
        rw [Member.given_cons_iff]
        · exact ih hrest htail m' hm'
        · rw [← hcheck'.names_eq]
          exact fun hname => hother g hg f.name hname List.mem_cons_self

theorem presents_zip (hchecks : List.Forall₂ Member.Checks members fields)
    (hnames : (fields.flatMap (·.names)).Nodup) {js : List Json}
    (hjs : List.Forall₂ (fun m j => m.spelling.Spells j (m.value r)) members js) :
    Presents members r ((fields.map (·.name)).zip js) := by
  refine ⟨given_zip hchecks hnames hjs, fun n hn hno => ?_⟩
  obtain ⟨f, hf, hname⟩ := List.mem_map.1 (List.of_mem_zip hn).1
  obtain ⟨m, hm, hcheck⟩ := exists_of_forall₂ hchecks.flip hf
  have hfor : f.name ∈ m.names := hcheck.names_eq ▸ List.mem_cons_self
  exact absurd (hname ▸ hfor) (hno m hm)

theorem repeated_zip (hchecks : List.Forall₂ Member.Checks members fields) {js : List Json}
    {x : Member ρ × Json} (hx : x ∈ members.zip js) (h : x.1.spelling.Repeats x.2) :
    x.1.Repeated ((fields.map (·.name)).zip js) := by
  suffices hzip : ∃ name ∈ x.1.names, (name, x.2) ∈ (fields.map (·.name)).zip js by
    obtain ⟨name, hname, hmem⟩ := hzip
    exact .inr ⟨(name, x.2), hmem, hname, h⟩
  induction hchecks generalizing js with
  | nil => cases hx
  | @cons m f members fields hcheck _ ih =>
      cases js with
      | nil => cases hx
      | cons j js =>
          rw [List.map_cons, List.zip_cons_cons]
          rcases List.mem_cons.1 hx with rfl | hx
          · exact ⟨f.name, hcheck.names_eq ▸ List.mem_cons_self, List.mem_cons_self⟩
          · obtain ⟨name, hname, hmem⟩ := ih hx
            exact ⟨name, hname, List.mem_cons_of_mem _ hmem⟩

theorem IsReadBy.record {name : String} {rest : Shown Json → Decoded ρ}
    (hchecks : List.Forall₂ Member.Checks members fields)
    (hnames : (fields.flatMap (·.names)).Nodup)
    (hrest : ∀ (s : Shown Json) (r : ρ), (∀ m ∈ members, m.Given r s.members) → rest s = .ok r) :
    (Spelling.record members).IsReadBy fun j => Record.read name fields j >>= rest := by
  constructor
  · intro j r hj
    cases j with
    | object ms =>
        have hread := Record.read_object (readable_of_presents hchecks hnames hj) name
        change Record.read name fields (.object ms) >>= rest = _
        rw [hread]
        exact hrest _ r hj.given
    | array js =>
        -- An array is read as the object of its items under the first names of the fields.
        have hpresents := presents_zip hchecks hnames hj
        have hlength : js.length = fields.length := hj.length_eq.symm.trans hchecks.length_eq
        obtain ⟨s, hread, hmembers⟩ :=
          Record.read_array hlength (readable_of_presents hchecks hnames hpresents) name
        change Record.read name fields (.array js) >>= rest = _
        rw [hread]
        exact hrest s r (hmembers ▸ hpresents.given)
    | null | bool | number | string | fault | torn => exact hj.elim
  · intro j hj
    cases hdecode : Record.read name fields j >>= rest with
    | error e => exact ⟨e, rfl⟩
    | ok r =>
        obtain ⟨s, hread, -⟩ := Record.bind_eq_ok.1 hdecode
        obtain ⟨hfields, hreadable⟩ := Record.readable_of_read hread
        cases j with
        | object ms =>
            obtain ⟨m, hm, hrepeated⟩ := hj
            cases hfields
            exact absurd hreadable (not_readable_of_repeated hchecks hnames hm hrepeated)
        | array js =>
            obtain ⟨x, hx, hrepeats⟩ := hj
            cases hfields
            have hrepeated := repeated_zip hchecks hx hrepeats
            exact absurd hreadable
              (not_readable_of_repeated hchecks hnames (List.of_mem_zip hx).1 hrepeated)
        | null | bool | number | string | fault | torn => exact hj.elim

end

end Spelling

end FlowBroker
