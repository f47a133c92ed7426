import FlowBroker.Proofs.ProcessUrl

namespace FlowBroker

namespace Path

def stem (path : List Char) : List Char :=
  if path.getLast? = some '/' then path.dropLast else path

/-- What stands in front of a further slash: nothing if one slash alone is left of the path. -/
def trunk (path : List Char) : List Char := if stem path = ['/'] then [] else stem path

variable {path : List Char}

theorem stem_of_unslashed (h : path.getLast? ≠ some '/') : stem path = path := if_neg h

theorem stem_append_slash (path : List Char) : stem (path ++ ['/']) = path := by
  rw [stem, if_pos List.getLast?_concat, List.dropLast_concat]

theorem trunk_append_slash (h : path.getLast? ≠ some '/') : trunk (path ++ ['/']) = trunk path := by
  rw [trunk, trunk, stem_append_slash, stem_of_unslashed h]

theorem trunk_append (path segment : List Char) :
    trunk path ++ segment =
      if stem path = [] ∨ stem path = ['/'] then segment else stem path ++ segment := by
  rw [trunk]
  by_cases hroot : stem path = ['/']
  · rw [if_pos hroot, if_pos (.inr hroot), List.nil_append]
  · rw [if_neg hroot]
    by_cases hempty : stem path = []
    · rw [if_pos (.inl hempty), hempty, List.nil_append]
    · rw [if_neg (not_or.2 ⟨hempty, hroot⟩)]

theorem dropTrailingSlash_eq (path : List Char) :
    dropTrailingSlash path = if path = ['/'] then ['/'] else stem path := by
  unfold dropTrailingSlash
  split
  · rfl
  · rfl
  · next hroot => rw [if_neg hroot, stem]

theorem opened_dropTrailingSlash (path : List Char) :
    opened (dropTrailingSlash path) = trunk path ++ ['/'] := by
  rw [dropTrailingSlash_eq]
  by_cases hroot : path = ['/']
  · subst hroot
    rfl
  · rw [if_neg hroot, opened, trunk]
    split
    · assumption
    · rfl

end Path

namespace Url

def front (u : Url) : String := u.scheme ++ ":" ++ u.authority.elim "" authorityText

def back (u : Url) : String := u.query.elim "" ("?" ++ ·) ++ u.fragment.elim "" ("#" ++ ·)

theorem toString_of_authority {u : Url} (h : u.authority.isSome) :
    u.toString = u.front ++ String.ofList u.path ++ u.back := by
  obtain ⟨a, ha⟩ := Option.isSome_iff_exists.1 h
  have hpath : u.pathText = u.path := by
    rw [pathText, ha]
  rw [toString, hpath, front, back, String.append_assoc, String.append_assoc, String.append_assoc]

end Url

namespace Remote

variable {base : Url}

theorem transferPath_eq (base : Url) :
    transferPath base = Path.trunk base.path ++ "/transfer".toList := by
  rw [transferPath, Path.opened_dropTrailingSlash, List.append_assoc]
  rfl

theorem eq_of_endpoint {url : Url} {segments : List String} (h : endpoint base segments = .ok url) :
    url = { base with path := url.path } := by
  rw [endpoint, Url.extend?] at h
  split at h
  · next hextend =>
    cases h
    split at hextend
    · cases hextend
    · cases hextend
      rfl
  · cases h

/-- A data plane has the same transfer endpoint as another only if their URLs differ in nothing but
a slash at the end of the path. -/
theorem transferEndpoint_eq_ok_iff (h : base.IsHttp) {v : Url} :
    transferEndpoint v = .ok { base with path := transferPath base } ↔
      v = { base with path := v.path } ∧ Path.trunk v.path = Path.trunk base.path := by
  have hhttp (hv : v = { base with path := v.path }) : v.IsHttp := by
    rw [hv]
    exact h
  constructor
  · intro hurl
    have hv : v = { base with path := v.path } :=
      (congrArg (fun u : Url => { u with path := v.path }) (eq_of_endpoint hurl)).symm
    rw [transferEndpoint_of_isHttp (hhttp hv), Except.ok.injEq] at hurl
    have hpath : transferPath v = transferPath base := congrArg Url.path hurl
    rw [transferPath_eq, transferPath_eq] at hpath
    exact ⟨hv, List.append_cancel_right hpath⟩
  · rintro ⟨hv, htrunk⟩
    rw [transferEndpoint_of_isHttp (hhttp hv), transferPath_eq, transferPath_eq, htrunk, hv]

/-- A transfer is sent to the URL of the data plane with `/transfer` behind its path less one
trailing slash, and for its whole path if nothing or a slash is left. What is left is kept as it is
written, and so is all in front of the path and behind it. -/
theorem transfer_addresses_joined_path {i : Instance} (h : i.url.IsHttp) :
    ∃ endpoint,
      transferEndpoint i.url = .ok endpoint ∧
      (∀ network r sent, requestsSent (transfer network i r sent).events =
        (sendable? .post (some r.encode) (.ok endpoint)).toList) ∧
      endpoint.scheme = i.url.scheme ∧ endpoint.authority = i.url.authority ∧
      endpoint.query = i.url.query ∧ endpoint.fragment = i.url.fragment ∧
      (let stem := Path.stem i.url.path
       endpoint.path = if stem = [] ∨ stem = ['/'] then "/transfer".toList
        else stem ++ "/transfer".toList) ∧
      i.url.toString = i.url.front ++ String.ofList i.url.path ++ i.url.back ∧
      endpoint.toString = i.url.front ++ String.ofList endpoint.path ++ i.url.back ∧
      (i.url.path.getLast? ≠ some '/' →
        transferEndpoint { i.url with path := i.url.path ++ ['/'] } = .ok endpoint) ∧
      ∀ other, transferEndpoint other = .ok endpoint ↔
        other = { i.url with path := other.path } ∧
          Path.trunk other.path = Path.trunk i.url.path := by
  have hpath : transferPath i.url = _ :=
    (transferPath_eq i.url).trans (Path.trunk_append i.url.path "/transfer".toList)
  refine ⟨_, transferEndpoint_of_isHttp h, ?_, rfl, rfl, rfl, rfl, hpath,
    Url.toString_of_authority h.2, Url.toString_of_authority (u := { i.url with path := _ }) h.2,
    ?_, fun other => transferEndpoint_eq_ok_iff h⟩
  · intro network r sent
    rw [requestsSent_transfer, transferEndpoint_of_isHttp h]
  · intro hunslashed
    exact (transferEndpoint_eq_ok_iff h).2 ⟨rfl, Path.trunk_append_slash hunslashed⟩

/-- An escaped slash stays one, and one slash at the end adds no segment, where two do. -/
theorem transfer_addresses_joined_path_of_escaped_slash :
    let base : Url := ⟨"http", some ⟨"ann", some "pw", .domain "dp", some 9192⟩,
      "/a%2Fb//c%20d".toList, some "x=1/", some "top"⟩
    let slashed : Url := { base with path := base.path ++ ['/'] }
    let twice : Url := { base with path := base.path ++ ['/', '/'] }
    Url.parse "http://ann:pw@dp:9192/a%2Fb//c%20d?x=1/#top" = .ok base ∧
      Url.parse "http://ann:pw@dp:9192/a%2Fb//c%20d/?x=1/#top" = .ok slashed ∧
      Url.parse "http://ann:pw@dp:9192/a%2Fb//c%20d//?x=1/#top" = .ok twice ∧
      base.IsHttp ∧ base.path.getLast? ≠ some '/' ∧
      ∃ endpoint, transferEndpoint base = .ok endpoint ∧
        endpoint.toString = "http://ann:pw@dp:9192/a%2Fb//c%20d/transfer?x=1/#top" ∧
        (∀ r, requestsSent (transfer Http.unreachable (.located "dp-1" base) r 0).events =
          [⟨.post, endpoint, some r.encode⟩]) ∧
        transferEndpoint slashed = .ok endpoint ∧ transferEndpoint twice ≠ .ok endpoint := by
  intro base slashed twice
  have hbase : Url.parse "http://ann:pw@dp:9192/a%2Fb//c%20d?x=1/#top" = .ok base := by
    decide +kernel
  have hhttp : base.IsHttp := Url.isHttp_of_parse hbase (.inl rfl)
  have hunslashed : base.path.getLast? ≠ some '/' := by decide
  obtain ⟨endpoint, hendpoint, hsent, -, -, -, -, hpath, -, htext, hslash, hsame⟩ :=
    transfer_addresses_joined_path (i := .located "dp-1" base) hhttp
  have hendpoint' := (transferEndpoint_of_isHttp hhttp).symm.trans hendpoint
  refine ⟨hbase, by decide +kernel, by decide +kernel, hhttp, hunslashed, endpoint, hendpoint, ?_,
    ?_, hslash hunslashed, ?_⟩
  · rw [htext, hpath]
    decide +kernel
  · intro r
    obtain rfl := Except.ok.inj hendpoint'
    exact hsent Http.unreachable r 0
  · intro htwice
    exact absurd ((hsame twice).1 htwice).2 (by decide +kernel)

end Remote

end FlowBroker
