import FlowBroker.Json.Source
import Mathlib.Data.List.Nodup
import Mathlib.Tactic.MkIffOfInductiveProp

namespace FlowBroker.Record

section

variable {δ α : Type} {fields : List (Field δ Unit)} {ms : List (String × δ)}

/-- The field that a member of the given name is for. -/
def field? (fields : List (Field δ Unit)) (name : String) : Option (Field δ Unit) :=
  fields.find? fun f => f.names.contains name

def subjects (fields : List (Field δ Unit)) (ms : List (String × δ)) : List String :=
  ms.filterMap fun m => (field? fields m.1).map (·.name)

theorem field?_of_mem (hnames : (fields.flatMap (·.names)).Nodup) {f : Field δ Unit}
    (hf : f ∈ fields) {name : String} (hname : name ∈ f.names) : field? fields name = some f := by
  induction fields with
  | nil => cases hf
  | cons g gs ih =>
      rw [List.flatMap_cons, List.nodup_append] at hnames
      obtain ⟨_, hrest, hapart⟩ := hnames
      rw [field?, List.find?_cons]
      rcases List.mem_cons.1 hf with rfl | hf
      · rw [List.contains_iff_mem.2 hname]
      · have hother : g.names.contains name = false := by
          rw [← Bool.not_eq_true, List.contains_iff_mem]
          exact fun hg => hapart name hg name (List.mem_flatMap.2 ⟨f, hf, hname⟩) rfl
        rw [hother]
        exact ih hrest hf

theorem subjects_cons (m : String × δ) :
    subjects fields (m :: ms) =
      ((field? fields m.1).map (·.name)).toList ++ subjects fields ms := by
  rw [subjects, List.filterMap_cons]
  cases field? fields m.1 <;> rfl

theorem mem_subjects {m : String × δ} (hm : m ∈ ms) {f : Field δ Unit}
    (hf : field? fields m.1 = some f) : f.name ∈ subjects fields ms :=
  List.mem_filterMap.2 ⟨m, hm, by rw [hf]; rfl⟩

theorem eq_of_field?_eq (h : (subjects fields ms).Nodup) {m m' : String × δ} (hm : m ∈ ms)
    (hm' : m' ∈ ms) {f : Field δ Unit} (hf : field? fields m.1 = some f)
    (hf' : field? fields m'.1 = some f) : m = m' := by
  induction ms with
  | nil => cases hm
  | cons n ms ih =>
      rw [subjects_cons, List.nodup_append] at h
      obtain ⟨_, hrest, hapart⟩ := h
      have hfirst : field? fields n.1 = some f → ∀ n' ∈ ms, field? fields n'.1 ≠ some f := by
        intro hn n' hn' hf'
        rw [hn] at hapart
        exact hapart f.name (List.mem_singleton_self _) f.name (mem_subjects hn' hf') rfl
      rcases List.mem_cons.1 hm with rfl | hback
      · rcases List.mem_cons.1 hm' with rfl | hback'
        · rfl
        · exact absurd hf' (hfirst hf m' hback')
      · rcases List.mem_cons.1 hm' with rfl | hback'
        · exact absurd hf (hfirst hf' m hback)
        · exact ih hrest hback hback'

theorem mem_of_field?_eq {name : String} {f : Field δ Unit} (h : field? fields name = some f) :
    f ∈ fields ∧ name ∈ f.names := by
  have hfind : (fields.find? fun f => f.names.contains name) = some f := h
  exact ⟨List.mem_of_find?_eq_some hfind, by simpa using List.find?_some hfind⟩

theorem count_subjects (hnames : (fields.flatMap (·.names)).Nodup) {f : Field δ Unit}
    (hf : f ∈ fields) : (subjects fields ms).count f.name = ms.countP fun n => n.1 ∈ f.names := by
  rw [subjects, List.count, List.countP_filterMap]
  refine List.countP_congr fun n _ => ?_
  -- The subject of a member has the name of this field just if the member has one of its names.
  cases hfield : field? fields n.1 with
  | none =>
      have hno : n.1 ∉ f.names := by
        intro hn
        rw [field?_of_mem hnames hf hn] at hfield
        cases hfield
      simpa using hno
  | some g =>
      obtain ⟨hg, hn⟩ := mem_of_field?_eq hfield
      have hsame : g.name = f.name ↔ n.1 ∈ f.names := by
        constructor
        · intro hname
          have hfor : field? fields f.name = some g :=
            field?_of_mem hnames hg (hname ▸ List.mem_cons_self)
          rw [field?_of_mem hnames hf List.mem_cons_self] at hfor
          exact Option.some.inj hfor ▸ hn
        · intro hn
          rw [field?_of_mem hnames hf hn] at hfield
          rw [Option.some.inj hfield]
      simpa using hsame

theorem nodup_subjects_iff (hnames : (fields.flatMap (·.names)).Nodup) :
    (subjects fields ms).Nodup ↔ ∀ f ∈ fields, (ms.countP fun n => n.1 ∈ f.names) ≤ 1 := by
  rw [List.nodup_iff_count_le_one]
  constructor
  · intro h f hf
    rw [← count_subjects hnames hf]
    exact h f.name
  · intro h name
    by_cases hname : name ∈ subjects fields ms
    · obtain ⟨n, -, hn⟩ := List.mem_filterMap.1 hname
      obtain ⟨f, hfield, rfl⟩ := Option.map_eq_some_iff.1 hn
      have hf := (mem_of_field?_eq hfield).1
      rw [count_subjects hnames hf]
      exact h f hf
    · rw [List.count_eq_zero.2 hname]
      exact Nat.zero_le 1

theorem sublist_flatMap_names : (fields.map (·.name)).Sublist (fields.flatMap (·.names)) := by
  induction fields with
  | nil => exact .slnil
  | cons f fs ih => exact (ih.trans (List.sublist_append_right f.aliases _)).cons_cons f.name

theorem member?_eq_none_of_not_mem {f : Field δ α} {s : Shown δ}
    (h : ∀ m ∈ s.members, m.1 ∉ f.names) : member? f s = none := by
  rw [member?, List.find?_eq_none.2 fun m hm => mt List.contains_iff_mem.1 (h m hm)]
  rfl

theorem defaulted_of_not_mem {f : Field δ α} {a : α} {s : Shown δ}
    (h : ∀ m ∈ s.members, m.1 ∉ f.names) : defaulted f a s = .ok a := by
  rw [defaulted, member?_eq_none_of_not_mem h]
  rfl

structure Entry (δ : Type) where
  field : Field δ Unit
  value : δ
  accepted : field.decode value = .ok ()

theorem check_decode {f : Field δ α} {d : δ} {a : α} (h : f.decode d = .ok a) :
    f.check.decode d = .ok () := by
  simp only [Field.check, h, Except.map]

def Entry.of (f : Field δ α) {d : δ} {a : α} (h : f.decode d = .ok a) : Entry δ :=
  ⟨f.check, d, check_decode h⟩

def Entry.member (e : Entry δ) : String × δ := (e.field.name, e.value)

def Entry.optional (f : Field δ (Option α)) (encode : α → δ) (o : Option α)
    (h : ∀ a ∈ o, f.decode (encode a) = .ok (some a)) : List (Entry δ) :=
  match o, h with
  | none, _ => []
  | some a, h => [.of f (h a rfl)]

theorem map_field_optional {f : Field δ (Option α)} {encode : α → δ} {o : Option α}
    (h : ∀ a ∈ o, f.decode (encode a) = .ok (some a)) :
    ((Entry.optional f encode o h).map Entry.field).Sublist [f.check] := by
  cases o with
  | none => exact List.nil_sublist _
  | some a => exact .refl _

def shown (es : List (Entry δ)) : Shown δ := ⟨es.map Entry.member, none, .missingField⟩

/-- Entries in the order of the fields that they are for; some fields may have none. -/
structure Listed (fields : List (Field δ Unit)) (es : List (Entry δ)) : Prop where
  apart : (fields.flatMap (·.names)).Nodup
  sublist : (es.map Entry.field).Sublist fields

theorem Listed.field?_eq {es : List (Entry δ)} (h : Listed fields es) {e : Entry δ} (he : e ∈ es) :
    field? fields e.field.name = some e.field :=
  field?_of_mem h.apart (h.sublist.mem (List.mem_map_of_mem he)) List.mem_cons_self

end

variable {δ α : Type} [Source δ] {fields : List (Field δ Unit)} {ms : List (String × δ)}

/-- The value of a member decodes, or can be passed over if the member is for no field. -/
def Sound (fields : List (Field δ Unit)) (m : String × δ) : Prop :=
  match field? fields m.1 with
  | some f => f.decode m.2 = .ok ()
  | none => Source.skip m.2 = .ok ()

@[mk_iff]
structure Readable (fields : List (Field δ Unit)) (ms : List (String × δ)) : Prop where
  once : (subjects fields ms).Nodup
  sound : ∀ m ∈ ms, Sound fields m

theorem bind_eq_ok {α β : Type} {x : Decoded α} {f : α → Decoded β} {b : β} :
    (x >>= f) = .ok b ↔ ∃ a, x = .ok a ∧ f a = .ok b := by
  cases x <;> simp [bind, Except.bind]

theorem bind_eq_ok_iff {x : Decoded Unit} {y : Decoded Unit} :
    (x >>= fun _ => y) = .ok () ↔ x = .ok () ∧ y = .ok () := by
  cases x <;> simp [bind, Except.bind]

theorem checkMembers_cons_of_none {seen : List String} {m : String × δ}
    (h : field? fields m.1 = none) :
    checkMembers fields seen (m :: ms) =
      (do Source.skip m.2; checkMembers fields seen ms) := by
  have hfind : (fields.find? fun f => f.names.contains m.1) = none := h
  rw [checkMembers, hfind]

theorem checkMembers_cons_of_some {seen : List String} {m : String × δ} {f : Field δ Unit}
    (h : field? fields m.1 = some f) :
    checkMembers fields seen (m :: ms) =
      if f.name ∈ seen then throw (.duplicateField f.name)
      else (do f.decode m.2; checkMembers fields (f.name :: seen) ms) := by
  have hfind : (fields.find? fun f => f.names.contains m.1) = some f := h
  rw [checkMembers, hfind]
  simp only [List.contains_iff_mem]

/-- The members are accepted exactly when they can be read and none is for a field met before. -/
theorem checkMembers_eq_ok_iff {seen : List String} :
    checkMembers fields seen ms = .ok () ↔
      Readable fields ms ∧ ∀ n ∈ subjects fields ms, n ∉ seen := by
  induction ms generalizing seen with
  | nil => exact ⟨fun _ => ⟨⟨List.nodup_nil, nofun⟩, nofun⟩, fun _ => rfl⟩
  | cons m ms ih =>
      rw [readable_iff, subjects_cons, List.forall_mem_cons, Sound]
      cases hfield : field? fields m.1 with
      | none =>
          rw [checkMembers_cons_of_none hfield, bind_eq_ok_iff, ih, readable_iff]
          simp only [Option.map_none, Option.toList_none, List.nil_append]
          constructor
          · rintro ⟨hskip, ⟨honce, hsound⟩, hseen⟩
            exact ⟨⟨honce, hskip, hsound⟩, hseen⟩
          · rintro ⟨⟨honce, hskip, hsound⟩, hseen⟩
            exact ⟨hskip, ⟨honce, hsound⟩, hseen⟩
      | some f =>
          rw [checkMembers_cons_of_some hfield]
          simp only [Option.map_some, Option.toList_some, List.singleton_append, List.nodup_cons,
            List.forall_mem_cons]
          by_cases hmet : f.name ∈ seen
          · rw [if_pos hmet]
            exact ⟨nofun, fun h => absurd hmet h.2.1⟩
          · rw [if_neg hmet, bind_eq_ok_iff, ih, readable_iff]
            simp only [List.mem_cons, not_or]
            constructor
            · rintro ⟨hvalue, ⟨honce, hsound⟩, hseen⟩
              exact ⟨⟨⟨fun h => (hseen _ h).1 rfl, honce⟩, hvalue, hsound⟩, hmet,
                fun n hn => (hseen n hn).2⟩
            · rintro ⟨⟨⟨hother, honce⟩, hvalue, hsound⟩, _, hseen⟩
              exact ⟨hvalue, ⟨honce, hsound⟩,
                fun n hn => ⟨fun heq => hother (heq ▸ hn), hseen n hn⟩⟩

theorem member?_of_mem (hnames : (fields.flatMap (·.names)).Nodup) (h : Readable fields ms)
    {f : Field δ α} (hf : f.check ∈ fields) {m : String × δ} (hm : m ∈ ms) (hname : m.1 ∈ f.names)
    (fault : Option DecodeError) (missing : String → DecodeError) :
    member? f ⟨ms, fault, missing⟩ = some m.2 := by
  have hfor {n : String × δ} (hn : n.1 ∈ f.names) : field? fields n.1 = some f.check :=
    field?_of_mem hnames hf hn
  rw [member?]
  cases hfound : ms.find? fun n => f.names.contains n.1 with
  | none =>
      have hnot := List.find?_eq_none.1 hfound m hm
      exact absurd (List.contains_iff_mem.2 hname) hnot
  | some n =>
      have hn : n.1 ∈ f.names := by
        simpa using List.find?_some hfound
      rw [eq_of_field?_eq h.once (List.mem_of_find?_eq_some hfound) hm (hfor hn) (hfor hname)]
      rfl

theorem read_object {fields : List (Field Json Unit)} {ms : List (String × Json)}
    (h : Readable fields ms) (name : String) :
    read name fields (.object ms) = .ok ⟨ms, none, .missingField⟩ := by
  have hms : checkMembers fields [] ms = .ok () := checkMembers_eq_ok_iff.2 ⟨h, nofun⟩
  change (do checkMembers fields [] ms; pure _) = _
  rw [hms]
  rfl

theorem readable_of_read {fields : List (Field Json Unit)} {name : String} {j : Json}
    {s : Shown Json} (h : read name fields j = .ok s) :
    Json.fields name (fields.map (·.name)) j = .ok s ∧ Readable fields s.members := by
  obtain ⟨s', hfields, h⟩ := bind_eq_ok.1 h
  obtain ⟨_, hmembers, h⟩ := bind_eq_ok.1 h
  obtain ⟨_, _, h⟩ := bind_eq_ok.1 h
  cases h
  exact ⟨hfields, (checkMembers_eq_ok_iff.1 hmembers).1⟩

theorem read_array {fields : List (Field Json Unit)} {js : List Json}
    (hlength : js.length = fields.length)
    (h : Readable fields ((fields.map (·.name)).zip js)) (name : String) :
    ∃ s, read name fields (.array js) = .ok s ∧
      s.members = (fields.map (·.name)).zip js := by
  have hms : checkMembers fields [] ((fields.map (·.name)).zip js) = .ok () :=
    checkMembers_eq_ok_iff.2 ⟨h, nofun⟩
  have hnot : ¬(fields.map (·.name)).length < js.length := by
    rw [List.length_map, hlength]
    exact Nat.lt_irrefl _
  have hfields : (Source.fields name (fields.map (·.name)) (Json.array js) : Decoded (Shown Json)) =
      .ok ⟨(fields.map (·.name)).zip js, none, fun field => .wrongLength
        ((fields.map (·.name)).idxOf field) (Json.arrayOf name (fields.map (·.name)).length)⟩ := by
    change (pure _ : Decoded (Shown Json)) = _
    rw [if_neg hnot]
    rfl
  rw [read, hfields]
  simp only [bind, Except.bind, hms]
  exact ⟨_, rfl, rfl⟩

namespace Listed

variable {es : List (Entry δ)} {f : Field δ α} {d : δ} {a default : α}

theorem readable (h : Listed fields es) : Readable fields (es.map Entry.member) := by
  have hsubjects : subjects fields (es.map Entry.member) = (es.map Entry.field).map (·.name) := by
    rw [subjects, List.filterMap_map, List.map_map, ← List.filterMap_eq_map]
    refine List.filterMap_congr fun e he => ?_
    rw [Function.comp_apply, Entry.member, h.field?_eq he]
    rfl
  constructor
  · rw [hsubjects]
    exact h.apart.sublist ((h.sublist.map _).trans sublist_flatMap_names)
  · intro m hm
    obtain ⟨e, he, rfl⟩ := List.mem_map.1 hm
    rw [Sound, Entry.member, h.field?_eq he]
    exact e.accepted

theorem read_eq {fields : List (Field Json Unit)} {es : List (Entry Json)} (h : Listed fields es)
    (name : String) : read name fields (.object (es.map Entry.member)) = .ok (shown es) :=
  read_object h.readable name

theorem member?_eq (h : Listed fields es) (hd : f.decode d = .ok a) (he : Entry.of f hd ∈ es) :
    member? f (shown es) = some d := by
  have hf : f.check ∈ es.map Entry.field := List.mem_map_of_mem (f := Entry.field) he
  have hm : (f.name, d) ∈ es.map Entry.member := List.mem_map_of_mem (f := Entry.member) he
  exact member?_of_mem h.apart h.readable (h.sublist.mem hf) hm List.mem_cons_self _ _

theorem required_eq (h : Listed fields es) (hd : f.decode d = .ok a) (he : Entry.of f hd ∈ es) :
    required f (shown es) = .ok a := by
  rw [required, h.member?_eq hd he]
  exact hd

theorem defaulted_eq (h : Listed fields es) (hd : f.decode d = .ok a) (he : Entry.of f hd ∈ es) :
    defaulted f default (shown es) = .ok a := by
  rw [defaulted, h.member?_eq hd he]
  exact hd

theorem optional_eq {f : Field δ (Option α)} {encode : α → δ} {o : Option α}
    {ho : ∀ a ∈ o, f.decode (encode a) = .ok (some a)} (h : Listed fields es)
    {before after : List (Entry δ)} (hes : es = before ++ Entry.optional f encode o ho ++ after)
    (hplace : (before.map Entry.field ++ f.check :: after.map Entry.field).Sublist fields) :
    defaulted f none (shown es) = .ok o := by
  cases o with
  | none =>
      -- The field has its place among the others, so that none of them can have its names.
      have hfields : fields.Nodup := .of_map _ (h.apart.sublist sublist_flatMap_names)
      have hother := (List.nodup_cons.1 (List.nodup_middle.1 (hfields.sublist hplace))).1
      refine defaulted_of_not_mem fun m hm hname => ?_
      obtain ⟨e, he, rfl⟩ := List.mem_map.1 hm
      have hf : field? fields e.field.name = some f.check :=
        field?_of_mem h.apart (hplace.mem (by simp)) hname
      rw [h.field?_eq he, Option.some.injEq] at hf
      rw [hes, Entry.optional, List.append_nil] at he
      rw [← hf, ← List.map_append] at hother
      exact hother (List.mem_map_of_mem he)
  | some a => exact h.defaulted_eq (ho a rfl) (by simp [hes, Entry.optional])

end Listed

end FlowBroker.Record
