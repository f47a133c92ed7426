import FlowBroker.Config
import FlowBroker.Proofs.EmbeddedFlows
import FlowBroker.Proofs.RecordMembers
import FlowBroker.Proofs.UuidText

namespace FlowBroker

def Url.ReadsBack (u : Url) : Prop := Url.parse u.toString = .ok u

namespace Source

theorem mapM_map {α δ : Type} {decode : δ → Decoded α} {encode : α → δ} {as : List α}
    (h : ∀ a ∈ as, decode (encode a) = .ok a) : (as.map encode).mapM decode = .ok as := by
  induction as with
  | nil => rfl
  | cons a as ih =>
      rw [List.forall_mem_cons] at h
      rw [List.map_cons, List.mapM_cons, h.1, ih h.2]
      rfl

theorem natural_ofNat (n : UInt64) : Source.natural (Json.ofNat n.toNat) = .ok n := by
  have hpositive : (0 : Int) ≤ n.toNat := Int.natCast_nonneg _
  have hvalue : (n.toNat : Int).toNat.toUInt64 = n := by
    rw [Int.toNat_natCast, Nat.toUInt64_eq, UInt64.ofNat_toNat]
  simp only [natural, Json.ofNat, Json.natural, if_pos hpositive, hvalue]
  rfl

theorem uuid_toString (u : Uuid) : Source.uuid (Json.string u.toString) = .ok u := by
  have htext : text "a formatted UUID string" (Json.string u.toString) = .ok u.toString := rfl
  rw [uuid, htext]
  simp only [bind, Except.bind, Uuid.parse?_toString]
  rfl

theorem url_toString {u : Url} (h : u.ReadsBack) :
    Source.url (Json.string u.toString) = .ok u := by
  have htext : text "a string representing an URL" (Json.string u.toString) = .ok u.toString := rfl
  have hparse : Url.parse u.toString = .ok u := h
  rw [url, htext]
  simp only [bind, Except.bind, hparse]
  rfl

theorem optional_of_ne_null {j : Json} (h : j ≠ .null) : optional j = .ok (some j) := by
  cases j with
  | null => exact absurd rfl h
  | bool | number | string | array | object | fault | torn => rfl

theorem option_some {α : Type} {decode : Json → Decoded α} {j : Json} {a : α}
    (h : decode j = .ok a) (hj : j ≠ .null) : Source.option decode j = .ok (some a) := by
  rw [option, optional_of_ne_null hj]
  simp only [bind, Except.bind, h]
  rfl

theorem option_ofOption {α : Type} {decode : Json → Decoded α} {encode : α → Json} {o : Option α}
    (h : ∀ a ∈ o, decode (encode a) = .ok a ∧ encode a ≠ .null) :
    Source.option decode (Json.ofOption encode o) = .ok o := by
  cases o with
  | none => rfl
  | some a => exact option_some (h a rfl).1 (h a rfl).2

theorem list_array {α : Type} {decode : Json → Decoded α} {encode : α → Json} {as : List α}
    (h : ∀ a ∈ as, decode (encode a) = .ok a) :
    Source.list decode (Json.array (as.map encode)) = .ok as :=
  mapM_map h

theorem typeSet_encode (s : TypeSet) : Source.typeSet s.encode = .ok s := by
  have hlist : list string s.encode = .ok s.toList := list_array fun _ _ => rfl
  rw [typeSet, hlist]
  exact congrArg Except.ok s.ofList_toList

theorem properties_encode (p : Properties) : Source.properties p.encode = .ok p := by
  let members := p.toList.map fun e => (e.1, Json.string e.2)
  have hentries : entries p.encode = .ok ⟨members, none, .missingField⟩ := rfl
  have hmembers : members.mapM (fun m => (m.1, ·) <$> string m.2) = .ok p.toList :=
    mapM_map fun _ _ => rfl
  rw [properties, hentries]
  simp only [bind, Except.bind, hmembers]
  exact congrArg Except.ok p.ofList_toList

end Source

open Record Source

theorem map_member_optional {α : Type} {f : Field Json (Option α)} {encode : α → Json}
    {o : Option α} (h : ∀ a ∈ o, f.decode (encode a) = .ok (some a)) :
    (Entry.optional f encode o h).map Entry.member = Json.optionalMember f.name encode o := by
  cases o <;> rfl

theorem Address.decode_encode (a : Address) : decode a.encode = .ok a := by
  have htype : typeField.decode (Json.string a.type) = .ok a.type := rfl
  have hproperties : propertiesField.decode a.properties.encode = .ok a.properties :=
    properties_encode a.properties
  have h : Listed fields [.of typeField htype, .of propertiesField hproperties] :=
    ⟨by decide, .refl _⟩
  have hread : read "DataAddress" fields a.encode = _ := h.read_eq "DataAddress"
  rw [decode, hread]
  simp only [bind, Except.bind, h.required_eq htype (by simp), h.defaulted_eq hproperties (by simp)]
  rfl

theorem Asset.decode_encode (a : Asset) : decode a.encode = .ok a := by
  have hid : idField.decode (Json.string a.id) = .ok a.id := rfl
  have haddress : addressField.decode a.address.encode = .ok a.address := a.address.decode_encode
  have h : Listed fields [.of idField hid, .of addressField haddress] := ⟨by decide, .refl _⟩
  have hread : read "Asset" fields a.encode = _ := h.read_eq "Asset"
  rw [decode, hread]
  simp only [bind, Except.bind, h.required_eq hid (by simp), h.required_eq haddress (by simp)]
  rfl

theorem TransferProcess.decode_encode (p : TransferProcess) : decode p.encode = .ok p := by
  have hid : idField.decode (Json.string p.id) = .ok p.id := rfl
  have htransferType : transferTypeField.decode (Json.ofOption .string p.transferType) =
      .ok p.transferType :=
    option_ofOption fun _ _ => ⟨rfl, nofun⟩
  have hdestinationType :
      destinationTypeField.decode (Json.string p.destinationType) = .ok p.destinationType := rfl
  have hsource : sourceField.decode p.source.encode = .ok p.source := p.source.decode_encode
  have hdestination : destinationField.decode p.destination.encode = .ok p.destination :=
    p.destination.decode_encode
  have h : Listed fields [.of idField hid, .of transferTypeField htransferType,
      .of destinationTypeField hdestinationType, .of sourceField hsource,
      .of destinationField hdestination] :=
    ⟨by decide, .refl _⟩
  have hread : read "TransferProcess" fields p.encode = _ := h.read_eq "TransferProcess"
  rw [decode, hread]
  simp only [bind, Except.bind, h.required_eq hid (by simp), h.defaulted_eq htransferType (by simp),
    h.required_eq hdestinationType (by simp), h.required_eq hsource (by simp),
    h.required_eq hdestination (by simp)]
  rfl

theorem Request.decode_encode {r : Request} (hurl : ∀ u ∈ r.callback, u.ReadsBack) :
    decode r.encode = .ok r := by
  have hid : idField.decode (Json.string r.id.toString) = .ok r.id := uuid_toString r.id
  have hprocessId : processIdField.decode (Json.string r.processId) = .ok r.processId := rfl
  have htrackable : trackableField.decode (Json.bool r.trackable) = .ok r.trackable := rfl
  have hsource : sourceField.decode r.source.encode = .ok r.source := r.source.decode_encode
  have hdestination : destinationField.decode r.destination.encode = .ok r.destination :=
    r.destination.decode_encode
  have htransferType : ∀ t ∈ r.transferType,
      transferTypeField.decode (Json.string t) = .ok (some t) :=
    fun _ _ => rfl
  have hcallback : ∀ u ∈ r.callback,
      callbackField.decode (Json.string u.toString) = .ok (some u) :=
    fun u hu => option_some (url_toString (hurl u hu)) nofun
  -- The members that may be left out come last, so the others keep their places without them.
  let always : List (Entry Json) := [.of idField hid, .of processIdField hprocessId,
    .of trackableField htrackable, .of sourceField hsource, .of destinationField hdestination]
  let ofTransferType := Entry.optional transferTypeField Json.string r.transferType htransferType
  let ofCallback := Entry.optional callbackField (fun u => Json.string u.toString) r.callback
    hcallback
  let es := always ++ ofTransferType ++ ofCallback
  have h : Listed fields es := by
    refine ⟨by decide, ?_⟩
    rw [List.map_append, List.map_append]
    exact ((List.Sublist.refl _).append (map_field_optional htransferType)).append
      (map_field_optional hcallback)
  have hencode : r.encode = .object (es.map Entry.member) := by
    rw [List.map_append, List.map_append, map_member_optional, map_member_optional]
    rfl
  have hreadTransferType : defaulted transferTypeField none (shown es) = .ok r.transferType :=
    h.optional_eq rfl ((List.Sublist.refl (always.map Entry.field)).append
      ((map_field_optional hcallback).cons_cons _))
  have hreadCallback : defaulted callbackField none (shown es) = .ok r.callback := by
    refine h.optional_eq (List.append_nil _).symm ?_
    rw [List.map_append]
    exact ((List.Sublist.refl _).append (map_field_optional htransferType)).append (.refl _)
  have hes : ∀ e ∈ always, e ∈ es :=
    fun e he => List.mem_append_left _ (List.mem_append_left _ he)
  rw [decode, hencode, h.read_eq]
  simp only [bind, Except.bind, h.required_eq hid (hes _ (by simp [always])),
    h.required_eq hprocessId (hes _ (by simp [always])),
    h.required_eq htrackable (hes _ (by simp [always])),
    h.required_eq hsource (hes _ (by simp [always])),
    h.required_eq hdestination (hes _ (by simp [always])), hreadTransferType, hreadCallback]
  rfl

theorem Response.decode_encode (r : Response) : decode r.encode = .ok r := by
  have haddress : ∀ a ∈ r.address, addressField.decode a.encode = .ok (some a) :=
    fun a _ => option_some a.decode_encode nofun
  let es := Entry.optional addressField Address.encode r.address haddress
  have h : Listed fields es := ⟨by decide, map_field_optional haddress⟩
  have hencode : r.encode = .object (es.map Entry.member) := by
    rw [map_member_optional]
    rfl
  have halone : es = [] ++ es ++ [] := (List.append_nil es).symm
  have hread : defaulted addressField none (shown es) = .ok r.address :=
    h.optional_eq halone (.refl _)
  rw [decode, hencode, h.read_eq]
  simp only [bind, Except.bind, hread]
  rfl

theorem Instance.decode_encode {i : Instance} (hi : i.url.ReadsBack) : decode i.encode = .ok i := by
  have hid : idField.decode (Json.string i.id) = .ok i.id := rfl
  have hurl : urlField.decode (Json.string i.url.toString) = .ok i.url := url_toString hi
  have hsourceTypes : sourceTypesField.decode i.sourceTypes.encode = .ok i.sourceTypes :=
    typeSet_encode i.sourceTypes
  have hdestinationTypes :
      destinationTypesField.decode i.destinationTypes.encode = .ok i.destinationTypes :=
    typeSet_encode i.destinationTypes
  have hproperties : propertiesField.decode i.properties.encode = .ok i.properties :=
    properties_encode i.properties
  have h : Listed fields [.of idField hid, .of urlField hurl, .of sourceTypesField hsourceTypes,
      .of destinationTypesField hdestinationTypes, .of propertiesField hproperties] :=
    ⟨by decide, .refl _⟩
  have hread : read "DataPlaneInstance" fields i.encode = _ := h.read_eq "DataPlaneInstance"
  rw [decode, hread]
  simp only [bind, Except.bind, h.required_eq hid (by simp), h.required_eq hurl (by simp),
    h.defaulted_eq hsourceTypes (by simp), h.defaulted_eq hdestinationTypes (by simp),
    h.defaulted_eq hproperties (by simp)]
  rfl

theorem ControlConfig.decode_encode (c : ControlConfig) : decode c.encode = .ok c := by
  have hcallback : callbackField.decode (Json.ofOption .string c.callback) = .ok c.callback :=
    option_ofOption fun _ _ => ⟨rfl, nofun⟩
  have hrequireCallback :
      requireCallbackField.decode (Json.bool c.requireCallback) = .ok c.requireCallback := rfl
  have hstrategy : strategyField.decode (Json.string c.strategy) = .ok c.strategy := rfl
  have htimeout : timeoutField.decode (Json.ofNat c.timeout.toNat) = .ok c.timeout :=
    natural_ofNat c.timeout
  have h : Listed fields [.of callbackField hcallback, .of requireCallbackField hrequireCallback,
      .of strategyField hstrategy, .of timeoutField htimeout] :=
    ⟨by decide, .refl _⟩
  have hread : read "ControlConfig" fields c.encode = _ := h.read_eq "ControlConfig"
  rw [decode, hread]
  simp only [bind, Except.bind, h.defaulted_eq hcallback (by simp),
    h.defaulted_eq hrequireCallback (by simp), h.defaulted_eq hstrategy (by simp),
    h.defaulted_eq htimeout (by simp)]
  rfl

theorem Config.decode_encode {c : Config} (hurls : ∀ i ∈ c.planes, i.url.ReadsBack) :
    decode c.encode = .ok c := by
  have hlogLevel : logLevelField.decode (Json.string c.logLevel) = .ok c.logLevel := rfl
  have hlogDirectory :
      logDirectoryField.decode (Json.string c.logDirectory) = .ok c.logDirectory := rfl
  have hlogFile : logFileField.decode (Json.string c.logFile) = .ok c.logFile := rfl
  have hjsonLog : jsonLogField.decode (Json.bool c.jsonLog) = .ok c.jsonLog := rfl
  have hrotation : rotationField.decode (Json.string c.rotation) = .ok c.rotation := rfl
  have hcontrol : controlField.decode c.control.encode = .ok c.control := c.control.decode_encode
  have hplanes : planesField.decode (Json.array (c.planes.map Instance.encode)) = .ok c.planes :=
    list_array fun i hi => Instance.decode_encode (hurls i hi)
  have h : Listed fields [.of logLevelField hlogLevel, .of logDirectoryField hlogDirectory,
      .of logFileField hlogFile, .of jsonLogField hjsonLog, .of rotationField hrotation,
      .of controlField hcontrol, .of planesField hplanes] :=
    ⟨by decide, .refl _⟩
  have hread : read "AppConfig" fields c.encode = _ := h.read_eq "AppConfig"
  rw [decode, hread]
  simp only [bind, Except.bind, h.required_eq hlogLevel (by simp),
    h.required_eq hlogDirectory (by simp), h.required_eq hlogFile (by simp),
    h.required_eq hjsonLog (by simp), h.required_eq hrotation (by simp),
    h.defaulted_eq hcontrol (by simp), h.defaulted_eq hplanes (by simp)]
  rfl

def recode {α : Type} (decode : Json → Decoded α) (encode : α → Json) (j : Json) : Decoded Json :=
  encode <$> decode j

/-- Records whose URLs read back are read as they were written. So a document that has been decoded
and written once stays as it is when that is done again. -/
structure Lossless {α : Type} (decode : Json → Decoded α) (encode : α → Json)
    (urls : α → List Url) : Prop where
  decode_encode : ∀ a, (∀ u ∈ urls a, u.ReadsBack) → decode (encode a) = .ok a
  recode_recode : ∀ j, (∀ a, decode j = .ok a → ∀ u ∈ urls a, u.ReadsBack) →
    recode decode encode j >>= recode decode encode = recode decode encode j

theorem Lossless.of_decode_encode {α : Type} {decode : Json → Decoded α} {encode : α → Json}
    {urls : α → List Url}
    (h : ∀ a, (∀ u ∈ urls a, u.ReadsBack) → decode (encode a) = .ok a) :
    Lossless decode encode urls := by
  refine ⟨h, fun j hj => ?_⟩
  cases hdecode : decode j with
  | error e =>
      rw [recode, hdecode]
      rfl
  | ok a =>
      have hrecode : recode decode encode j = .ok (encode a) := by
        rw [recode, hdecode]
        rfl
      rw [hrecode]
      change recode decode encode (encode a) = _
      rw [recode, h a (hj a hdecode)]
      rfl

def Json.get? (name : String) : Json → Option Json
  | object ms => ms.lookup name
  | _ => none

theorem Request.get?_encode (r : Request) :
    r.encode.get? "transferType" = r.transferType.map .string ∧
      r.encode.get? "callbackAddress" = r.callback.map fun u => .string u.toString := by
  obtain ⟨_, _, _, _, _, transferType, callback⟩ := r
  cases transferType <;> cases callback <;> exact ⟨rfl, rfl⟩

theorem Response.get?_encode (r : Response) :
    r.encode.get? "dataAddress" = r.address.map Address.encode := by
  obtain ⟨address⟩ := r
  cases address <;> rfl

theorem TransferProcess.get?_encode (p : TransferProcess) :
    p.encode.get? "transferType" = some (p.transferType.elim .null .string) := by
  obtain ⟨_, transferType, _, _, _⟩ := p
  cases transferType <;> rfl

theorem ControlConfig.get?_encode (c : ControlConfig) :
    c.encode.get? "callback_url" = some (c.callback.elim .null .string) := by
  obtain ⟨callback, _, _, _⟩ := c
  cases callback <;> rfl

theorem Push.body_of_mem_requestsSent {push : Push} {network : Http.Network} {p : TransferProcess}
    {c : Control Planes} {h : Http.Request}
    (hsent : h ∈ requestsSent (push.initiate (Planes.transport network) p c).events) :
    h.method = .post ∧ h.body = some (push.request p c).encode := by
  rcases Control.initiate_cases push network p c with ⟨_, _, hnone⟩ | ⟨i, _, _, _, hasked⟩
  · rw [hnone] at hsent
    cases hsent
  · rw [hasked, Planes.requestsSent_transfer] at hsent
    split at hsent
    · cases hsent
    · exact (Remote.of_sendable?_eq_some (Option.mem_toList.1 hsent)).2

/-- All records are read back as they were written, and a data plane that is asked to start a flow
gets the request that was built. Requests and responses leave out what they lack; processes and
control configurations say that it is `null`. -/
theorem records_read_back :
    (Lossless Address.decode Address.encode fun _ => []) ∧
      (Lossless Asset.decode Asset.encode fun _ => []) ∧
      (Lossless TransferProcess.decode TransferProcess.encode fun _ => []) ∧
      (Lossless Request.decode Request.encode fun r => r.callback.toList) ∧
      (Lossless Response.decode Response.encode fun _ => []) ∧
      (Lossless Instance.decode Instance.encode fun i => [i.url]) ∧
      (Lossless ControlConfig.decode ControlConfig.encode fun _ => []) ∧
      (Lossless Config.decode Config.encode fun c => c.planes.map (·.url)) ∧
      (∀ (push : Push) (network : Http.Network) (p : TransferProcess) (c : Control Planes),
        (∀ u ∈ push.callback, u.ReadsBack) →
        ∀ h ∈ requestsSent (push.initiate (Planes.transport network) p c).events,
          h.method = .post ∧
            ∃ body, h.body = some body ∧ Request.decode body = .ok (push.request p c)) ∧
      (∀ r : Request, r.encode.get? "transferType" = r.transferType.map .string ∧
        r.encode.get? "callbackAddress" = r.callback.map fun u => .string u.toString) ∧
      (∀ r : Response, r.encode.get? "dataAddress" = r.address.map Address.encode) ∧
      (∀ p : TransferProcess,
        p.encode.get? "transferType" = some (p.transferType.elim .null .string)) ∧
      ∀ c : ControlConfig, c.encode.get? "callback_url" = some (c.callback.elim .null .string) := by
  refine ⟨.of_decode_encode fun a _ => a.decode_encode,
    .of_decode_encode fun a _ => a.decode_encode, .of_decode_encode fun p _ => p.decode_encode,
    .of_decode_encode fun r hr => ?_, .of_decode_encode fun r _ => r.decode_encode,
    .of_decode_encode fun i hi => ?_, .of_decode_encode fun c _ => c.decode_encode,
    .of_decode_encode fun c hc => ?_, fun push network p c hpush h hsent => ?_,
    Request.get?_encode, Response.get?_encode, TransferProcess.get?_encode,
    ControlConfig.get?_encode⟩
  · exact Request.decode_encode fun u hu => hr u (Option.mem_toList.2 hu)
  · exact Instance.decode_encode (hi i.url (List.mem_singleton_self _))
  · exact Config.decode_encode fun i hi => hc i.url (List.mem_map_of_mem hi)
  · obtain ⟨hmethod, hbody⟩ := Push.body_of_mem_requestsSent hsent
    exact ⟨hmethod, _, hbody, Request.decode_encode hpush⟩

theorem records_read_back_with_urls :
    let back : Url :=
      ⟨"http", some ⟨"", none, .domain "control", some 8080⟩, "/back".toList, none, none⟩
    let base : Url := ⟨"http", some ⟨"", none, .domain "dp", some 9000⟩, ['/'], none, none⟩
    let i := ((Instance.located "dp-1" base).allowSource "HttpData").allowDestination "S3"
    let config : Config := ⟨"info", "./logs", "app.log", false, "daily",
      ⟨some back.toString, true, "first", 18446744073709551615⟩, [i]⟩
    let push : Push := ⟨some back, true⟩
    let p := TransferProcess.between "tp-1" (.ofType "HttpData")
      ((Address.ofType "S3").withProperty "bucket" "b")
    let c : Control Planes := ⟨.withInstances .first [i], default, 0, 0⟩
    back.ReadsBack ∧ base.ReadsBack ∧ Config.decode config.encode = .ok config ∧
      ∃ h ∈ requestsSent (push.initiate (Planes.transport Http.unreachable) p c).events,
        ∃ body, h.body = some body ∧ Request.decode body = .ok (push.request p c) := by
  intro back base i config push p c
  have hback : back.ReadsBack := by
    dsimp only [back, Url.ReadsBack]
    decide +kernel
  have hbase : base.ReadsBack := by
    dsimp only [base, Url.ReadsBack]
    decide +kernel
  obtain ⟨_, _, _, _, _, _, _, hconfig, hposted, _⟩ := records_read_back
  obtain ⟨h, hsent⟩ : ∃ h,
      h ∈ requestsSent (push.initiate (Planes.transport Http.unreachable) p c).events :=
    ⟨_, List.mem_cons_self⟩
  have hpush : ∀ u ∈ push.callback, u.ReadsBack := by
    rintro u hu
    cases hu
    exact hback
  have hplanes : ∀ u ∈ config.planes.map (·.url), u.ReadsBack := by
    intro u hu
    rw [List.mem_singleton.1 hu]
    exact hbase
  obtain ⟨_, body, hbody, hrequest⟩ := hposted push Http.unreachable p c hpush h hsent
  exact ⟨hback, hbase, hconfig.decode_encode config hplanes, h, hsent, body, hbody, hrequest⟩

end FlowBroker
