import FlowBroker.Plane.Remote
import FlowBroker.Proofs.ByteOrder
import FlowBroker.Url.Parser
import Mathlib.Data.List.Basic

namespace FlowBroker

namespace Path

/-- What a path keeps as a segment of its own, character by character. -/
def IsKept (cs : List Char) : Prop :=
  cs ≠ ['.'] ∧ cs ≠ ['.', '.'] ∧ ∀ c ∈ cs, isIgnored c = false

theorem decode_of_dot? {cs rest : List Char} (h : dot? cs = some rest) :
    Percent.decode cs = 0x2E :: Percent.decode rest := by
  have hlower : Digit.byte? '2' 'e' = some 0x2E := by decide
  have hupper : Digit.byte? '2' 'E' = some 0x2E := by decide
  unfold dot? at h
  split at h <;> cases h
  · exact Percent.decode_cons_of_ne (by decide) rest
  · simp only [Percent.decode, hlower]
  · simp only [Percent.decode, hupper]

theorem decode_of_isSingleDot {cs : List Char} (h : isSingleDot cs = true) :
    Percent.decode cs = Utf8.encode ['.'] :=
  decode_of_dot? (beq_iff_eq.1 h)

theorem decode_of_isDoubleDot {cs : List Char} (h : isDoubleDot cs = true) :
    Percent.decode cs = Utf8.encode ['.', '.'] := by
  obtain ⟨rest, hdot, hrest⟩ := (Option.any_eq_true _ _).1 h
  rw [decode_of_dot? hdot, decode_of_isSingleDot hrest]
  rfl

section

variable {escapes : Percent.Escapes} (hpercent : escapes '%' = true) (hdot : escapes '.' = false)

include hpercent hdot

theorem isSingleDot_encode_iff (cs : List Char) :
    isSingleDot (Percent.encode escapes cs) = true ↔ cs = ['.'] := by
  constructor
  · intro h
    have hbytes := decode_of_isSingleDot h
    rw [Percent.decode_encode hpercent] at hbytes
    exact Utf8.encode_injective hbytes
  · rintro rfl
    simp [Percent.encode, Percent.encodeChar, hdot, isSingleDot, dot?]

theorem isDoubleDot_encode_iff (cs : List Char) :
    isDoubleDot (Percent.encode escapes cs) = true ↔ cs = ['.', '.'] := by
  constructor
  · intro h
    have hbytes := decode_of_isDoubleDot h
    rw [Percent.decode_encode hpercent] at hbytes
    exact Utf8.encode_injective hbytes
  · rintro rfl
    simp [Percent.encode, Percent.encodeChar, hdot, isDoubleDot, isSingleDot, dot?]

end

def withoutIgnored (cs : List Char) : List Char := cs.filter (!isIgnored ·)

theorem push_special (path cs : List Char) :
    push .special path cs =
      if cs = ['.'] ∨ cs = ['.', '.'] then path
      else if withoutIgnored cs = ['.', '.'] then parent (opened path)
      else if withoutIgnored cs = ['.'] then opened path
      else opened path ++ Percent.encode Percent.specialSegment (withoutIgnored cs) := by
  have htext : segmentText .special cs =
      Percent.encode Percent.specialSegment (withoutIgnored cs) := rfl
  have hkept (t : List Char) : kept .special t = t := rfl
  have hpercent : Percent.specialSegment '%' = true := by decide
  have hdot : Percent.specialSegment '.' = false := by decide
  simp only [push, htext, hkept, Bool.or_eq_true, decide_eq_true_eq,
    isDoubleDot_encode_iff hpercent hdot, isSingleDot_encode_iff hpercent hdot]

theorem length_upToSlash_le (cs : List Char) : (upToSlash cs).length ≤ cs.length := by
  have h := (List.dropWhile_sublist (· ≠ '/') (l := cs.reverse)).length_le
  simpa [upToSlash] using h

section

variable {path cs ds segment : List Char}

theorem withoutIgnored_eq_self_iff : withoutIgnored cs = cs ↔ ∀ c ∈ cs, isIgnored c = false := by
  simp [withoutIgnored]

theorem IsKept.withoutIgnored_eq (h : IsKept cs) : withoutIgnored cs = cs :=
  withoutIgnored_eq_self_iff.2 h.2.2

theorem decode_encode_specialSegment (cs : List Char) :
    Percent.decode (Percent.encode Percent.specialSegment cs) = Utf8.encode cs :=
  Percent.decode_encode (by decide) cs

theorem encode_specialSegment_injective :
    Function.Injective (Percent.encode Percent.specialSegment) := by
  have hread : Percent.decode ∘ Percent.encode Percent.specialSegment = Utf8.encode :=
    funext decode_encode_specialSegment
  have hcomp : Function.Injective (Percent.decode ∘ Percent.encode Percent.specialSegment) := by
    rw [hread]
    exact Utf8.encode_injective
  exact hcomp.of_comp

/-- A path gains the text less its tabs and line breaks. Dots give it no segment; a dot that only
stands alone without those gives it the empty one. -/
theorem push_special_eq_append_iff (hpath : 1 < path.length) :
    push .special path cs = path ++ '/' :: segment ↔
      withoutIgnored cs = ['.'] ∧ cs ≠ ['.'] ∧ segment = [] ∨
      withoutIgnored cs ≠ ['.'] ∧ withoutIgnored cs ≠ ['.', '.'] ∧
        segment = Percent.encode Percent.specialSegment (withoutIgnored cs) := by
  have hopened : opened path = path ++ ['/'] := by
    rw [opened, if_neg]
    rintro rfl
    exact absurd hpath (by decide)
  have hparent : parent (path ++ ['/']) = upToSlash path := by
    have hne : path ≠ [] := List.ne_nil_of_length_pos (by omega)
    rw [parent, if_neg (by simpa using hne), List.dropLast_concat]
  -- What is no longer than the path is not the path with a segment.
  have hshort {ds : List Char} (hlen : ds.length ≤ path.length) : ds ≠ path ++ '/' :: segment := by
    rintro rfl
    rw [List.length_append, List.length_cons] at hlen
    omega
  have hone : withoutIgnored ['.'] = ['.'] := by decide
  have htwo : withoutIgnored ['.', '.'] = ['.', '.'] := by decide
  rw [push_special, hopened, hparent]
  split_ifs with hdots hdouble hsingle
  · rcases hdots with rfl | rfl
    · simp [hone, hshort (Nat.le_refl path.length)]
    · simp [htwo, hshort (Nat.le_refl path.length)]
  · simp [hdouble, hshort (length_upToSlash_le path)]
  · simp [hsingle, (not_or.1 hdots).1, eq_comm]
  · simp [hdouble, hsingle, eq_comm]

theorem push_special_eq_iff (hpath : 1 < path.length) :
    push .special path cs = path ++ '/' :: segment ∧ Percent.decode segment = Utf8.encode cs ↔
      IsKept cs ∧ segment = Percent.encode Percent.specialSegment cs := by
  rw [push_special_eq_append_iff hpath]
  constructor
  · rintro ⟨⟨hdot, -, rfl⟩ | ⟨hsingle, hdouble, rfl⟩, hbytes⟩
    · obtain rfl : [] = cs := Utf8.encode_injective hbytes
      cases hdot
    · rw [decode_encode_specialSegment] at hbytes
      have hsame := Utf8.encode_injective hbytes
      rw [hsame] at hsingle hdouble
      exact ⟨⟨hsingle, hdouble, withoutIgnored_eq_self_iff.1 hsame⟩, by rw [hsame]⟩
  · rintro ⟨hkept, rfl⟩
    refine ⟨.inr ?_, decode_encode_specialSegment cs⟩
    rw [hkept.withoutIgnored_eq]
    exact ⟨hkept.1, hkept.2.1, rfl⟩

theorem push_special_of_isKept (hpath : 1 < path.length) (h : IsKept cs) :
    push .special path cs = path ++ '/' :: Percent.encode Percent.specialSegment cs :=
  ((push_special_eq_iff hpath).2 ⟨h, rfl⟩).1

theorem push_special_eq_push_iff (hpath : 1 < path.length) (h : IsKept ds) :
    push .special path cs = push .special path ds ↔
      withoutIgnored cs = ds ∨ withoutIgnored cs = ['.'] ∧ cs ≠ ['.'] ∧ ds = [] := by
  rw [push_special_of_isKept hpath h, push_special_eq_append_iff hpath]
  have hnil : Percent.encode Percent.specialSegment ds = [] ↔ ds = [] :=
    encode_specialSegment_injective.eq_iff (b := [])
  rw [hnil, encode_specialSegment_injective.eq_iff]
  constructor
  · rintro (hdot | ⟨-, -, rfl⟩)
    · exact .inr hdot
    · exact .inl rfl
  · rintro (rfl | hdot)
    · exact .inr ⟨h.1, h.2.1, rfl⟩
    · exact .inl hdot

end

end Path

def Url.IsHttp (u : Url) : Prop :=
  (u.scheme = "http" ∨ u.scheme = "https") ∧ u.authority.isSome

namespace Url

variable {u : Url}

theorem IsHttp.kind_eq (h : u.IsHttp) : u.kind = .special := by
  rcases h.1 with hscheme | hscheme <;> rw [kind, hscheme] <;> decide

theorem isHttp_of_parse {text : String} (h : parse text = .ok u)
    (hscheme : u.scheme = "http" ∨ u.scheme = "https") : u.IsHttp := by
  refine ⟨hscheme, authority_isSome_of_parse h ?_⟩
  rcases hscheme with hscheme | hscheme <;> rw [kind, hscheme] <;> decide

theorem IsHttp.extend? (h : u.IsHttp) (segments : List String) :
    u.extend? segments = some { u with
      path := segments.foldl (fun p s => Path.push .special p s.toList)
        (Path.dropTrailingSlash u.path) } := by
  rw [Url.extend?, isOpaque, Option.isNone_eq_false_iff.2 h.2, h.kind_eq]
  rfl

/-- The URL is one segment below the endpoint, and the segment stands for the name. -/
def IsBelow (u endpoint : Url) (name : String) : Prop :=
  ∃ segment : List Char,
    u = { endpoint with path := endpoint.path ++ '/' :: segment } ∧
    (∀ c ∈ ['/', '\\', '?', '#'], c ∉ segment) ∧
    Percent.decode segment = Utf8.encode name.toList

end Url

namespace Remote

def transferPath (base : Url) : List Char :=
  Path.opened (Path.dropTrailingSlash base.path) ++ transferSegment.toList

theorem lt_length_transferPath (base : Url) : 1 < (transferPath base).length := by
  have h : transferSegment.toList.length = 8 := by decide
  rw [transferPath, List.length_append, h]
  omega

theorem push_transferSegment (path : List Char) :
    Path.push .special path transferSegment.toList =
      Path.opened path ++ transferSegment.toList := by
  rw [Path.push_special]
  rfl

variable {base : Url}

theorem transferEndpoint_of_isHttp (h : base.IsHttp) :
    transferEndpoint base = .ok { base with path := transferPath base } := by
  rw [transferEndpoint, endpoint, h.extend?]
  simp only [List.foldl_cons, List.foldl_nil, push_transferSegment, transferPath]

theorem processEndpoint_of_isHttp (h : base.IsHttp) (process : String) :
    processEndpoint base process =
      .ok { base with path := Path.push .special (transferPath base) process.toList } := by
  rw [processEndpoint, endpoint, h.extend?]
  simp only [List.foldl_cons, List.foldl_nil, push_transferSegment, transferPath]

theorem isBelow_iff (h : base.IsHttp) (process : String) {url : Url}
    (hurl : processEndpoint base process = .ok url) :
    url.IsBelow { base with path := transferPath base } process ↔
      Path.IsKept process.toList := by
  obtain rfl := Except.ok.inj ((processEndpoint_of_isHttp h process).symm.trans hurl)
  have hlen := lt_length_transferPath base
  constructor
  · rintro ⟨segment, hpath, -, hbytes⟩
    exact ((Path.push_special_eq_iff hlen).1 ⟨congrArg Url.path hpath, hbytes⟩).1
  · intro hkept
    have hescaped : ∀ c ∈ ['/', '\\', '?', '#'],
        Percent.specialSegment c = true ∧ c ∉ '%' :: Percent.digits := by
      simp only [List.mem_cons, List.not_mem_nil, or_false]
      rintro c (rfl | rfl | rfl | rfl) <;> decide
    refine ⟨Percent.encode Percent.specialSegment process.toList, ?_, ?_,
      Path.decode_encode_specialSegment _⟩
    · rw [Path.push_special_of_isKept hlen hkept]
    · intro c hc
      exact Percent.not_mem_encode (hescaped c hc).1 (hescaped c hc).2 process.toList

/-- The flow of a process is ended one segment below the transfer endpoint, at a URL that differs
from the data plane's in its path only, exactly if the path keeps the id. Another id has that URL
only if it is the same one less tabs and line breaks, or, where the id is empty, such a dot. -/
theorem terminate_addresses_kept_segment {i : Instance} (h : i.url.IsHttp) (process : String) :
    ∃ endpoint url,
      transferEndpoint i.url = .ok endpoint ∧
      processEndpoint i.url process = .ok url ∧
      (∀ network sent, requestsSent (terminate network i process sent).events =
        (sendable? .delete none (.ok url)).toList) ∧
      url = { i.url with path := url.path } ∧
      (url.IsBelow endpoint process ↔ Path.IsKept process.toList) ∧
      (Path.IsKept process.toList → url ≠ endpoint ∧
        ∀ other : String, processEndpoint i.url other = .ok url ↔
          Path.withoutIgnored other.toList = process.toList ∨
            Path.withoutIgnored other.toList = ['.'] ∧ other ≠ "." ∧ process = "") := by
  have hlen := lt_length_transferPath i.url
  have hurl := processEndpoint_of_isHttp h process
  refine ⟨_, _, transferEndpoint_of_isHttp h, hurl, ?_, rfl, isBelow_iff h process hurl, ?_⟩
  · intro network sent
    rw [requestsSent_terminate, hurl]
  · intro hkept
    constructor
    · intro heq
      have hpath := congrArg (List.length ∘ Url.path) heq
      simp [Path.push_special_of_isKept hlen hkept] at hpath
    · intro other
      rw [processEndpoint_of_isHttp h other, Except.ok.injEq, Url.mk.injEq]
      simp only [true_and, and_true, Path.push_special_eq_push_iff hlen hkept, ne_eq,
        ← String.toList_inj]
      rfl

theorem terminate_addresses_kept_segment_of_tenant :
    let base : Url :=
      ⟨"http", some ⟨"", none, .domain "dp", some 9192⟩, "/control/".toList, some "x=1", none⟩
    let i := Instance.located "dp-1" base
    let sent := (terminate Http.unreachable i "tenant/tp 1" 0).events
    Url.parse "http://dp:9192/control/?x=1" = .ok base ∧ base.IsHttp ∧
      ∃ endpoint url,
        transferEndpoint base = .ok endpoint ∧
        endpoint.toString = "http://dp:9192/control/transfer?x=1" ∧
        requestsSent sent = [⟨.delete, url, none⟩] ∧
        url.toString = "http://dp:9192/control/transfer/tenant%2Ftp%201?x=1" ∧
        url.IsBelow endpoint "tenant/tp 1" ∧ url ≠ endpoint ∧
        processEndpoint base "tenant%2Ftp 1" ≠ .ok url := by
  intro base i sent
  have hbase : Url.parse "http://dp:9192/control/?x=1" = .ok base := by decide +kernel
  have hhttp : base.IsHttp := Url.isHttp_of_parse hbase (.inl rfl)
  have hkept : Path.IsKept "tenant/tp 1".toList :=
    ⟨by decide, by decide, Path.withoutIgnored_eq_self_iff.1 (by decide)⟩
  obtain ⟨endpoint, url, hendpoint, hurl, hsent, -, hbelow, hown⟩ :=
    terminate_addresses_kept_segment (i := i) hhttp "tenant/tp 1"
  obtain ⟨hne, hother⟩ := hown hkept
  have hurl' := (processEndpoint_of_isHttp hhttp "tenant/tp 1").symm.trans hurl
  have hendpoint' := (transferEndpoint_of_isHttp hhttp).symm.trans hendpoint
  refine ⟨hbase, hhttp, endpoint, url, hendpoint, ?_, ?_, ?_, hbelow.2 hkept, hne, ?_⟩
  · obtain rfl := Except.ok.inj hendpoint'
    decide +kernel
  · rw [hsent]
    obtain rfl := Except.ok.inj hurl'
    rfl
  · obtain rfl := Except.ok.inj hurl'
    decide +kernel
  · intro hsame
    exact absurd ((hother "tenant%2Ftp 1").1 hsame) (by decide)

/-- A lone dot and two dots are passed over, tabs are dropped, and what is two dots only then
leaves the transfer endpoint. -/
theorem dotted_process_addresses_transferEndpoint :
    let base : Url :=
      ⟨"http", some ⟨"", none, .domain "dp", some 9192⟩, "/control".toList, none, none⟩
    Url.parse "http://dp:9192/control" = .ok base ∧
      processEndpoint base "." = transferEndpoint base ∧
      processEndpoint base ".." = transferEndpoint base ∧
      processEndpoint base "a\tb" = processEndpoint base "ab" ∧
      processEndpoint base ".\t." = .ok { base with path := "/control/".toList } := by
  decide +kernel

end Remote

end FlowBroker
