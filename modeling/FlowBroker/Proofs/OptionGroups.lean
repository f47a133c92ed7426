import FlowBroker.Proofs.ProgramRun
import Mathlib.Data.List.Perm.Basic

namespace FlowBroker.CommandLine

def optionWords : List String := ["--env", "-e", "--process", "-p", "--terminate"]

abbrev PlainWord := { word : String // word ∉ optionWords }

inductive Setting where
  | environment
  | process
  deriving DecidableEq

namespace Setting

def name : Setting → String
  | environment => "--env"
  | process => "--process"

def flags : Setting → List String
  | environment => [environment.name, "-e"]
  | process => [process.name, "-p"]

abbrev Flag (s : Setting) := { word : String // word ∈ s.flags }

end Setting

/-- What a command line is made of behind the name of the program. -/
inductive Group where
  | setting (s : Setting) (flag : s.Flag) (value : PlainWord)
  | terminate
  | stray (word : PlainWord)

namespace Group

def words : Group → List String
  | setting _ flag value => [flag.val, value.val]
  | terminate => ["--terminate"]
  | stray word => [word.val]

def option? : Group → Option String
  | setting s _ _ => some s.name
  | terminate => some "--terminate"
  | stray _ => none

def value? (s : Setting) : Group → Option String
  | setting t _ value => if t = s then some value.val else none
  | terminate | stray _ => none

end Group

/-- A command line that gives each option once at most. -/
structure Line where
  program : PlainWord
  groups : List Group
  once : (groups.filterMap Group.option?).Nodup
  unfinished : Option ((s : Setting) × s.Flag)

def Line.words (l : Line) : List String :=
  l.program.val :: l.groups.flatMap Group.words ++ l.unfinished.toList.map (·.2.val)

/-- What the groups say, and what holds where they say nothing. -/
structure Heeds (groups : List Group) (environment : String) (path : Option String)
    (ending : Bool) : Prop where
  given : ∀ flag value, .setting .environment flag value ∈ groups → environment = value.val
  notGiven : (∀ flag value, .setting .environment flag value ∉ groups) → environment = "dev"
  path_iff : ∀ p, path = some p ↔
    ∃ flag value, .setting .process flag value ∈ groups ∧ value.val = p
  ending_iff : ending = true ↔ .terminate ∈ groups

theorem Setting.mem_optionWords {s : Setting} {word : String} (h : word ∈ s.flags) :
    word ∈ optionWords := by
  revert word
  cases s <;> decide

theorem Setting.eq_of_mem_flags {s t : Setting} {word : String} (hs : word ∈ s.flags)
    (ht : word ∈ t.flags) : t = s := by
  revert word
  cases s <;> cases t <;> decide

theorem Setting.terminate_not_mem_flags (s : Setting) : "--terminate" ∉ s.flags := by
  cases s <;> decide

theorem PlainWord.not_mem_flags (word : PlainWord) (s : Setting) : word.val ∉ s.flags :=
  fun h => word.property (s.mem_optionWords h)

theorem argument?_unfinished (flags : List String) (unfinished : Option ((s : Setting) × s.Flag)) :
    argument? flags (unfinished.toList.map (·.2.val)) = none := by
  cases unfinished <;> rfl

theorem argument?_words_append (s : Setting) (g : Group) (words : List String) :
    argument? s.flags (g.words ++ words) = (g.value? s).or (argument? s.flags words) := by
  cases g with
  | setting t flag value =>
      by_cases h : t = s
      · subst h
        rw [Group.value?, if_pos rfl]
        exact argument?_cons_of_mem flag.property value.val
      -- Another option is passed over in two steps, its flag and its value.
      · rw [Group.value?, if_neg h]
        have hflag : flag.val ∉ s.flags := fun hs => h (Setting.eq_of_mem_flags hs flag.property)
        exact (argument?_cons_of_not_mem hflag).trans
          (argument?_cons_of_not_mem (value.not_mem_flags s))
  | terminate => exact argument?_cons_of_not_mem s.terminate_not_mem_flags
  | stray word => exact argument?_cons_of_not_mem (word.not_mem_flags s)

theorem argument?_groups (s : Setting) (groups : List Group) (words : List String) :
    argument? s.flags (groups.flatMap Group.words ++ words) =
      (groups.findSome? (Group.value? s)).or (argument? s.flags words) := by
  induction groups with
  | nil => rfl
  | cons g groups ih =>
      rw [List.flatMap_cons, List.append_assoc, argument?_words_append, ih, List.findSome?_cons]
      cases g.value? s <;> rfl

theorem argument?_line (l : Line) (s : Setting) :
    argument? s.flags l.words = l.groups.findSome? (Group.value? s) := by
  rw [Line.words, List.cons_append, argument?_cons_of_not_mem (l.program.not_mem_flags s),
    argument?_groups, argument?_unfinished, Option.or_none]

theorem Group.value?_eq_some_iff {s : Setting} {g : Group} {v : String} :
    g.value? s = some v ↔ ∃ flag value, g = .setting s flag value ∧ value.val = v := by
  cases g with
  | terminate | stray _ => simp [value?]
  | setting t flag value =>
      rw [value?]
      constructor
      · intro h
        split at h
        · next hs =>
          subst hs
          exact ⟨flag, value, rfl, Option.some.inj h⟩
        · cases h
      · rintro ⟨flag, value, hg, rfl⟩
        cases hg
        exact if_pos rfl

theorem option?_of_value? {s : Setting} {g : Group} {v : String} (h : g.value? s = some v) :
    g.option? = some s.name := by
  obtain ⟨flag, value, rfl, -⟩ := Group.value?_eq_some_iff.1 h
  rfl

theorem exists_value?_iff {groups : List Group} {s : Setting} {v : String} :
    (∃ g ∈ groups, g.value? s = some v) ↔
      ∃ flag value, .setting s flag value ∈ groups ∧ value.val = v := by
  simp only [Group.value?_eq_some_iff]
  constructor
  · rintro ⟨_, hg, flag, value, rfl, hv⟩
    exact ⟨flag, value, hg, hv⟩
  · rintro ⟨flag, value, hg, hv⟩
    exact ⟨_, hg, flag, value, rfl, hv⟩

theorem findSome?_value?_eq_some_iff {groups : List Group}
    (h : (groups.filterMap Group.option?).Nodup) {s : Setting} {v : String} :
    groups.findSome? (Group.value? s) = some v ↔ ∃ g ∈ groups, g.value? s = some v := by
  induction groups with
  | nil => simp
  | cons g groups ih =>
      rw [List.findSome?_cons]
      cases hg : g.value? s with
      | none =>
          have hrest : (groups.filterMap Group.option?).Nodup :=
            h.sublist ((List.sublist_cons_self g groups).filterMap _)
          simp only [ih hrest, List.mem_cons, exists_eq_or_imp, hg, reduceCtorEq, false_or]
      | some w =>
          -- A later group of the setting would give its option again.
          rw [List.filterMap_cons_some (option?_of_value? hg), List.nodup_cons] at h
          have hothers : ∀ g' ∈ groups, g'.value? s ≠ some v := fun g' hg' hv =>
            h.1 (List.mem_filterMap.2 ⟨g', hg', option?_of_value? hv⟩)
          simp only [List.mem_cons, exists_eq_or_imp, hg]
          exact ⟨.inl, fun hor => hor.resolve_right fun ⟨g', hg', hv⟩ => hothers g' hg' hv⟩

theorem argument?_line_eq_some_iff (l : Line) {s : Setting} {v : String} :
    argument? s.flags l.words = some v ↔
      ∃ flag value, .setting s flag value ∈ l.groups ∧ value.val = v := by
  rw [argument?_line, findSome?_value?_eq_some_iff l.once, exists_value?_iff]

theorem PlainWord.ne_terminate (word : PlainWord) : "--terminate" ≠ word.val := by
  intro h
  apply word.property
  rw [← h]
  decide

theorem Setting.Flag.ne_terminate {s : Setting} (flag : s.Flag) : "--terminate" ≠ flag.val :=
  fun h => s.terminate_not_mem_flags (h ▸ flag.property)

theorem Group.terminate_mem_words_iff (g : Group) : "--terminate" ∈ g.words ↔ g = .terminate := by
  cases g with
  | setting s flag value => simp [words, flag.ne_terminate, value.ne_terminate]
  | terminate => simp [words]
  | stray word => simp [words, word.ne_terminate]

theorem terminates_line_iff (l : Line) : terminates l.words = true ↔ .terminate ∈ l.groups := by
  have hprogram := l.program.ne_terminate
  have hunfinished : "--terminate" ∉ l.unfinished.toList.map (·.2.val) := by
    cases l.unfinished with
    | none => exact List.not_mem_nil
    | some unfinished => simp [unfinished.2.ne_terminate]
  simp [terminates, Line.words, hprogram, hunfinished, Group.terminate_mem_words_iff]

theorem heeds_line (l : Line) :
    Heeds l.groups (environment l.words) (processPath? l.words) (terminates l.words) where
  given flag value hg := by
    have hvalue : argument? Setting.environment.flags l.words = some value.val :=
      (argument?_line_eq_some_iff l).2 ⟨flag, value, hg, rfl⟩
    exact congrArg (·.getD "dev") hvalue
  notGiven hnone := by
    have hvalue : argument? Setting.environment.flags l.words = none := by
      rw [Option.eq_none_iff_forall_ne_some]
      intro v hv
      obtain ⟨flag, value, hg, -⟩ := (argument?_line_eq_some_iff l).1 hv
      exact hnone flag value hg
    exact congrArg (·.getD "dev") hvalue
  path_iff _ := argument?_line_eq_some_iff l (s := .process)
  ending_iff := terminates_line_iff l

theorem load_goes_by {words : List String} {files : String → Except FileFault String} {s : Session}
    (h : Session.load words files = .ok s) :
    s.environment = environment words ∧ s.processPath = processPath? words ∧
      s.terminates = terminates words ∧
      Config.ofFile files (Config.path (environment words)) = .ok s.config := by
  cases hloaded : Config.ofFile files (Config.path (environment words)) with
  | error e =>
      have hfailed : Session.load words files = .error (.ofConfig e) := by
        rw [Session.load, hloaded]
        rfl
      cases h.symm.trans hfailed
  | ok c =>
      obtain ⟨_, _, _, _, _, hload⟩ := load_of_configures (configures_iff.2 hloaded)
      cases h.symm.trans hload
      exact ⟨rfl, rfl, rfl, rfl⟩

theorem report_congr {words words' : List String}
    (henvironment : environment words = environment words')
    (hpath : processPath? words = processPath? words')
    (hending : terminates words = terminates words') : report words = report words' := by
  funext files later network dice series
  rw [report, report, Session.load, Session.load, henvironment, hpath, hending]

def Group.isOption (g : Group) : Bool := g.option?.isSome

theorem Heeds.congr {groups groups' : List Group} {environment environment' : String}
    {path path' : Option String} {ending ending' : Bool}
    (h : Heeds groups environment path ending) (h' : Heeds groups' environment' path' ending')
    (hsame : (groups.filter Group.isOption).Perm (groups'.filter Group.isOption)) :
    environment = environment' ∧ path = path' ∧ ending = ending' := by
  have hmem {g : Group} (hg : g.isOption = true) : g ∈ groups ↔ g ∈ groups' := by
    have hfilter := hsame.mem_iff (a := g)
    rwa [List.mem_filter, List.mem_filter, and_iff_left hg, and_iff_left hg] at hfilter
  refine ⟨?_, ?_, ?_⟩
  · by_cases hgiven : ∃ flag value, .setting .environment flag value ∈ groups
    · obtain ⟨flag, value, hg⟩ := hgiven
      rw [h.given flag value hg, h'.given flag value ((hmem rfl).1 hg)]
    · simp only [not_exists] at hgiven
      rw [h.notGiven hgiven, h'.notGiven fun flag value hg => hgiven flag value ((hmem rfl).2 hg)]
  · ext p
    rw [h.path_iff, h'.path_iff]
    exact exists_congr fun flag => exists_congr fun value => and_congr_left' (hmem rfl)
  · rw [Bool.eq_iff_iff, h.ending_iff, h'.ending_iff]
    exact hmem rfl

/-- The program goes by the groups of its command line, and is the same for every order of the
options and with any other words between them. A flag without a value counts for nothing. -/
theorem options_heeded_in_any_order (l l' : Line)
    (h : (l.groups.filter Group.isOption).Perm (l'.groups.filter Group.isOption)) :
    Heeds l.groups (environment l.words) (processPath? l.words) (terminates l.words) ∧
      (∀ files s, Session.load l.words files = .ok s →
        Heeds l.groups s.environment s.processPath s.terminates ∧
          Config.ofFile files (Config.path s.environment) = .ok s.config) ∧
      environment l.words = environment l'.words ∧ processPath? l.words = processPath? l'.words ∧
      terminates l.words = terminates l'.words ∧ report l.words = report l'.words := by
  have hheeds := heeds_line l
  obtain ⟨henvironment, hpath, hending⟩ := hheeds.congr (heeds_line l') h
  refine ⟨hheeds, ?_, henvironment, hpath, hending, report_congr henvironment hpath hending⟩
  intro files s hload
  obtain ⟨hs, hs', hs'', hconfig⟩ := load_goes_by hload
  rw [hs, hs', hs'']
  exact ⟨hheeds, hconfig⟩

theorem options_heeded_in_any_order_behind_stray_words :
    let file : Group := .setting .process ⟨"-p", by decide⟩ ⟨"tp.json", by decide⟩
    let prod : Group := .setting .environment ⟨"--env", by decide⟩ ⟨"prod", by decide⟩
    let l : Line := ⟨⟨"broker", by decide⟩,
      [.stray ⟨"-v", by decide⟩, .terminate, file, .stray ⟨"dev", by decide⟩, prod],
      by decide, some ⟨.process, "--process", by decide⟩⟩
    let l' : Line := ⟨⟨"./broker", by decide⟩, [prod, file, .terminate], by decide, none⟩
    (l.groups.filter Group.isOption).Perm (l'.groups.filter Group.isOption) ∧
      l.words =
        ["broker", "-v", "--terminate", "-p", "tp.json", "dev", "--env", "prod", "--process"] ∧
      l'.words = ["./broker", "--env", "prod", "-p", "tp.json", "--terminate"] ∧
      environment l.words = "prod" ∧ processPath? l.words = some "tp.json" ∧
      terminates l.words = true ∧ report l.words = report l'.words := by
  intro file prod l l'
  have hsame : (l.groups.filter Group.isOption).Perm (l'.groups.filter Group.isOption) :=
    List.reverse_perm (l'.groups.filter Group.isOption)
  obtain ⟨hheeds, -, -, -, -, hreport⟩ := options_heeded_in_any_order l l' hsame
  refine ⟨hsame, rfl, rfl, ?_, ?_, ?_, hreport⟩
  · exact hheeds.given ⟨"--env", by decide⟩ ⟨"prod", by decide⟩ (by simp [l, prod])
  · exact (hheeds.path_iff "tp.json").2
      ⟨⟨"-p", by decide⟩, ⟨"tp.json", by decide⟩, by simp [l, file], rfl⟩
  · exact hheeds.ending_iff.2 (by simp [l])

example : environment ["broker", "-p", "tp.json", "--env"] = "dev" := by decide

end FlowBroker.CommandLine
