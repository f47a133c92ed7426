import FlowBroker.Proofs.Spelling

namespace FlowBroker

open Record Source Spelling

def Address.spelling : Spelling Address :=
  .record [⟨["type"], .text, Address.type, none⟩,
    ⟨["properties"], .properties, Address.properties, some .empty⟩]

def Asset.spelling : Spelling Asset :=
  .record [⟨["id"], .text, Asset.id, none⟩,
    ⟨["dataAddress"], Address.spelling, Asset.address, none⟩]

def TransferProcess.spelling : Spelling TransferProcess :=
  .record [⟨["id"], .text, TransferProcess.id, none⟩,
    ⟨["transferType"], .option .text, TransferProcess.transferType, some none⟩,
    ⟨["destinationType"], .text, TransferProcess.destinationType, none⟩,
    ⟨["contentDataAddress"], Address.spelling, TransferProcess.source, none⟩,
    ⟨["dataDestination"], Address.spelling, TransferProcess.destination, none⟩]

def Request.spelling : Spelling Request :=
  .record [⟨["requestId"], .uuid, Request.id, none⟩,
    ⟨["processId"], .text, Request.processId, none⟩,
    ⟨["trackable"], .flag, Request.trackable, none⟩,
    ⟨["sourceDataAddress"], Address.spelling, Request.source, none⟩,
    ⟨["destinationDataAddress"], Address.spelling, Request.destination, none⟩,
    ⟨["transferType"], .option .text, Request.transferType, some none⟩,
    ⟨["callbackAddress"], .option .url, Request.callback, some none⟩]

def Response.spelling : Spelling Response :=
  .record [⟨["dataAddress"], .option Address.spelling, Response.address, some none⟩]

def Instance.spelling : Spelling Instance :=
  .record [⟨["id"], .text, Instance.id, none⟩,
    ⟨["url"], .url, Instance.url, none⟩,
    ⟨["allowedSourceTypes", "allowed_source_types"], .typeSet, Instance.sourceTypes, some .empty⟩,
    ⟨["allowedDestTypes", "allowed_dest_types"], .typeSet, Instance.destinationTypes, some .empty⟩,
    ⟨["properties"], .properties, Instance.properties, some .empty⟩]

def ControlConfig.spelling : Spelling ControlConfig :=
  .record [⟨["callback_url"], .option .text, ControlConfig.callback, some none⟩,
    ⟨["require_callback"], .flag, ControlConfig.requireCallback, some false⟩,
    ⟨["selection_strategy"], .text, ControlConfig.strategy, some "round-robin"⟩,
    ⟨["client_timeout_ms"], .natural, ControlConfig.timeout, some 30000⟩]

def Config.spelling : Spelling Config :=
  .record [⟨["log_level"], .text, Config.logLevel, none⟩,
    ⟨["log_dir"], .text, Config.logDirectory, none⟩,
    ⟨["log_file"], .text, Config.logFile, none⟩,
    ⟨["use_json"], .flag, Config.jsonLog, none⟩,
    ⟨["rotation"], .text, Config.rotation, none⟩,
    ⟨["control"], ControlConfig.spelling, Config.control,
      some ⟨none, false, "round-robin", 30000⟩⟩,
    ⟨["data_planes"], .list Instance.spelling, Config.planes, some []⟩]

theorem optionalText_isReadBy : (Spelling.option .text).IsReadBy (option string) :=
  .option .text nofun nofun

theorem optionalUrl_isReadBy : (Spelling.option .url).IsReadBy (option url) := by
  refine .option .url ?_ nofun
  rintro _ ⟨t, ht, _⟩
  cases ht

theorem Address.spelling_isReadBy : Address.spelling.IsReadBy Address.decode := by
  refine IsReadBy.record ?_ (by decide) fun s a hgiven => ?_
  · exact .cons (Member.checks_of_isReadBy (f := typeField) .text) <|
      .cons (Member.checks_of_isReadBy (f := propertiesField) .properties) .nil
  · simp only [List.forall_mem_cons] at hgiven
    obtain ⟨htype, hproperties, -⟩ := hgiven
    have htype : required typeField s = .ok a.type := Member.required_of_given .text htype
    have hproperties : defaulted propertiesField .empty s = .ok a.properties :=
      Member.defaulted_of_given .properties hproperties
    simp only [bind, Except.bind, htype, hproperties]
    rfl

theorem Asset.spelling_isReadBy : Asset.spelling.IsReadBy Asset.decode := by
  refine IsReadBy.record ?_ (by decide) fun s a hgiven => ?_
  · exact .cons (Member.checks_of_isReadBy (f := idField) .text) <|
      .cons (Member.checks_of_isReadBy (f := addressField) Address.spelling_isReadBy) .nil
  · simp only [List.forall_mem_cons] at hgiven
    obtain ⟨hid, haddress, -⟩ := hgiven
    have hid : required idField s = .ok a.id := Member.required_of_given .text hid
    have haddress : required addressField s = .ok a.address :=
      Member.required_of_given Address.spelling_isReadBy haddress
    simp only [bind, Except.bind, hid, haddress]
    rfl

theorem TransferProcess.spelling_isReadBy :
    TransferProcess.spelling.IsReadBy TransferProcess.decode := by
  refine IsReadBy.record ?_ (by decide) fun s p hgiven => ?_
  · exact .cons (Member.checks_of_isReadBy (f := idField) .text) <|
      .cons (Member.checks_of_isReadBy (f := transferTypeField) optionalText_isReadBy) <|
      .cons (Member.checks_of_isReadBy (f := destinationTypeField) .text) <|
      .cons (Member.checks_of_isReadBy (f := sourceField) Address.spelling_isReadBy) <|
      .cons (Member.checks_of_isReadBy (f := destinationField) Address.spelling_isReadBy) .nil
  · simp only [List.forall_mem_cons] at hgiven
    obtain ⟨hid, htransferType, hdestinationType, hsource, hdestination, -⟩ := hgiven
    have hid : required idField s = .ok p.id := Member.required_of_given .text hid
    have htransferType : defaulted transferTypeField none s = .ok p.transferType :=
      Member.defaulted_of_given optionalText_isReadBy htransferType
    have hdestinationType : required destinationTypeField s = .ok p.destinationType :=
      Member.required_of_given .text hdestinationType
    have hsource : required sourceField s = .ok p.source :=
      Member.required_of_given Address.spelling_isReadBy hsource
    have hdestination : required destinationField s = .ok p.destination :=
      Member.required_of_given Address.spelling_isReadBy hdestination
    simp only [bind, Except.bind, hid, htransferType, hdestinationType, hsource, hdestination]
    rfl

theorem Request.spelling_isReadBy : Request.spelling.IsReadBy Request.decode := by
  refine IsReadBy.record ?_ (by decide) fun s r hgiven => ?_
  · exact .cons (Member.checks_of_isReadBy (f := idField) .uuid) <|
      .cons (Member.checks_of_isReadBy (f := processIdField) .text) <|
      .cons (Member.checks_of_isReadBy (f := trackableField) .flag) <|
      .cons (Member.checks_of_isReadBy (f := sourceField) Address.spelling_isReadBy) <|
      .cons (Member.checks_of_isReadBy (f := destinationField) Address.spelling_isReadBy) <|
      .cons (Member.checks_of_isReadBy (f := transferTypeField) optionalText_isReadBy) <|
      .cons (Member.checks_of_isReadBy (f := callbackField) optionalUrl_isReadBy) .nil
  · simp only [List.forall_mem_cons] at hgiven
    obtain ⟨hid, hprocessId, htrackable, hsource, hdestination, htransferType, hcallback, -⟩ :=
      hgiven
    have hid : required idField s = .ok r.id := Member.required_of_given .uuid hid
    have hprocessId : required processIdField s = .ok r.processId :=
      Member.required_of_given .text hprocessId
    have htrackable : required trackableField s = .ok r.trackable :=
      Member.required_of_given .flag htrackable
    have hsource : required sourceField s = .ok r.source :=
      Member.required_of_given Address.spelling_isReadBy hsource
    have hdestination : required destinationField s = .ok r.destination :=
      Member.required_of_given Address.spelling_isReadBy hdestination
    have htransferType : defaulted transferTypeField none s = .ok r.transferType :=
      Member.defaulted_of_given optionalText_isReadBy htransferType
    have hcallback : defaulted callbackField none s = .ok r.callback :=
      Member.defaulted_of_given optionalUrl_isReadBy hcallback
    simp only [bind, Except.bind, hid, hprocessId, htrackable, hsource, hdestination,
      htransferType, hcallback]
    rfl

theorem optionalAddress_isReadBy : Address.spelling.option.IsReadBy (option Address.decode) :=
  .option Address.spelling_isReadBy (fun _ h => h) fun h => h

theorem Response.spelling_isReadBy : Response.spelling.IsReadBy Response.decode := by
  refine IsReadBy.record ?_ (by decide) fun s r hgiven => ?_
  · exact .cons (Member.checks_of_isReadBy (f := addressField) optionalAddress_isReadBy) .nil
  · simp only [List.forall_mem_cons] at hgiven
    obtain ⟨haddress, -⟩ := hgiven
    have haddress : defaulted addressField none s = .ok r.address :=
      Member.defaulted_of_given optionalAddress_isReadBy haddress
    simp only [bind, Except.bind, haddress]
    rfl

theorem Instance.spelling_isReadBy : Instance.spelling.IsReadBy Instance.decode := by
  refine IsReadBy.record ?_ (by decide) fun s i hgiven => ?_
  · exact .cons (Member.checks_of_isReadBy (f := idField) .text) <|
      .cons (Member.checks_of_isReadBy (f := urlField) .url) <|
      .cons (Member.checks_of_isReadBy (f := sourceTypesField) .typeSet) <|
      .cons (Member.checks_of_isReadBy (f := destinationTypesField) .typeSet) <|
      .cons (Member.checks_of_isReadBy (f := propertiesField) .properties) .nil
  · simp only [List.forall_mem_cons] at hgiven
    obtain ⟨hid, hurl, hsourceTypes, hdestinationTypes, hproperties, -⟩ := hgiven
    have hid : required idField s = .ok i.id := Member.required_of_given .text hid
    have hurl : required urlField s = .ok i.url := Member.required_of_given .url hurl
    have hsourceTypes : defaulted sourceTypesField .empty s = .ok i.sourceTypes :=
      Member.defaulted_of_given .typeSet hsourceTypes
    have hdestinationTypes : defaulted destinationTypesField .empty s = .ok i.destinationTypes :=
      Member.defaulted_of_given .typeSet hdestinationTypes
    have hproperties : defaulted propertiesField .empty s = .ok i.properties :=
      Member.defaulted_of_given .properties hproperties
    simp only [bind, Except.bind, hid, hurl, hsourceTypes, hdestinationTypes, hproperties]
    rfl

theorem ControlConfig.spelling_isReadBy : ControlConfig.spelling.IsReadBy ControlConfig.decode := by
  refine IsReadBy.record ?_ (by decide) fun s c hgiven => ?_
  · exact .cons (Member.checks_of_isReadBy (f := callbackField) optionalText_isReadBy) <|
      .cons (Member.checks_of_isReadBy (f := requireCallbackField) .flag) <|
      .cons (Member.checks_of_isReadBy (f := strategyField) .text) <|
      .cons (Member.checks_of_isReadBy (f := timeoutField) .natural) .nil
  · simp only [List.forall_mem_cons] at hgiven
    obtain ⟨hcallback, hrequireCallback, hstrategy, htimeout, -⟩ := hgiven
    have hcallback : defaulted callbackField default.callback s = .ok c.callback :=
      Member.defaulted_of_given optionalText_isReadBy hcallback
    have hrequireCallback :
        defaulted requireCallbackField default.requireCallback s = .ok c.requireCallback :=
      Member.defaulted_of_given .flag hrequireCallback
    have hstrategy : defaulted strategyField default.strategy s = .ok c.strategy :=
      Member.defaulted_of_given .text hstrategy
    have htimeout : defaulted timeoutField default.timeout s = .ok c.timeout :=
      Member.defaulted_of_given .natural htimeout
    simp only [bind, Except.bind, hcallback, hrequireCallback, hstrategy, htimeout]
    rfl

theorem Config.spelling_isReadBy : Config.spelling.IsReadBy Config.decode := by
  refine IsReadBy.record ?_ (by decide) fun s c hgiven => ?_
  · exact .cons (Member.checks_of_isReadBy (f := logLevelField) .text) <|
      .cons (Member.checks_of_isReadBy (f := logDirectoryField) .text) <|
      .cons (Member.checks_of_isReadBy (f := logFileField) .text) <|
      .cons (Member.checks_of_isReadBy (f := jsonLogField) .flag) <|
      .cons (Member.checks_of_isReadBy (f := rotationField) .text) <|
      .cons (Member.checks_of_isReadBy (f := controlField) ControlConfig.spelling_isReadBy) <|
      .cons (Member.checks_of_isReadBy (f := planesField) (.list Instance.spelling_isReadBy)) .nil
  · simp only [List.forall_mem_cons] at hgiven
    obtain ⟨hlogLevel, hlogDirectory, hlogFile, hjsonLog, hrotation, hcontrol, hplanes, -⟩ := hgiven
    have hlogLevel : required logLevelField s = .ok c.logLevel :=
      Member.required_of_given .text hlogLevel
    have hlogDirectory : required logDirectoryField s = .ok c.logDirectory :=
      Member.required_of_given .text hlogDirectory
    have hlogFile : required logFileField s = .ok c.logFile :=
      Member.required_of_given .text hlogFile
    have hjsonLog : required jsonLogField s = .ok c.jsonLog :=
      Member.required_of_given .flag hjsonLog
    have hrotation : required rotationField s = .ok c.rotation :=
      Member.required_of_given .text hrotation
    have hcontrol : defaulted controlField .default s = .ok c.control :=
      Member.defaulted_of_given ControlConfig.spelling_isReadBy hcontrol
    have hplanes : defaulted planesField [] s = .ok c.planes :=
      Member.defaulted_of_given (.list Instance.spelling_isReadBy) hplanes
    simp only [bind, Except.bind, hlogLevel, hlogDirectory, hlogFile, hjsonLog, hrotation,
      hcontrol, hplanes]
    rfl

theorem Address.spells_type (type : String) :
    Address.spelling.Spells (.object [("type", .string type)]) (.ofType type) := by
  apply spells_object
  · simp only [List.forall_mem_cons]
    exact ⟨.inl ⟨_, rfl, rfl⟩, .inr ⟨rfl, rfl⟩, List.forall_mem_nil _⟩
  · exact fun n hn => List.mem_singleton.1 hn ▸ rfl

theorem Address.spells_row (type : String) :
    Address.spelling.Spells (.array [.string type, .object []]) (.ofType type) :=
  .cons rfl <| .cons ⟨[], rfl, .refl _⟩ .nil

theorem ControlConfig.spells_empty : ControlConfig.spelling.Spells (.object []) .default := by
  apply spells_object
  · simp only [List.forall_mem_cons]
    exact ⟨.inr ⟨rfl, rfl⟩, .inr ⟨rfl, rfl⟩, .inr ⟨rfl, rfl⟩, .inr ⟨rfl, rfl⟩,
      List.forall_mem_nil _⟩
  · exact List.forall_mem_nil _

/-- Every record is read from each of its spellings, and from no document that has two members for
one field. -/
theorem records_read_however_spelled :
    Address.spelling.IsReadBy Address.decode ∧ Asset.spelling.IsReadBy Asset.decode ∧
      TransferProcess.spelling.IsReadBy TransferProcess.decode ∧
      Request.spelling.IsReadBy Request.decode ∧ Response.spelling.IsReadBy Response.decode ∧
      Instance.spelling.IsReadBy Instance.decode ∧
      ControlConfig.spelling.IsReadBy ControlConfig.decode ∧
      Config.spelling.IsReadBy Config.decode :=
  ⟨Address.spelling_isReadBy, Asset.spelling_isReadBy, TransferProcess.spelling_isReadBy,
    Request.spelling_isReadBy, Response.spelling_isReadBy, Instance.spelling_isReadBy,
    ControlConfig.spelling_isReadBy, Config.spelling_isReadBy⟩

theorem records_read_however_spelled_in_shuffled_config :
    let base : Url := ⟨"http", some ⟨"", none, .domain "dp", some 9000⟩, ['/'], none, none⟩
    let i := (((Instance.located "dp-1" base).allowSource "Ftp").allowSource
      "HttpData").withProperty "zone" "b"
    let sources := Json.array [.string "HttpData", .string "Ftp", .string "HttpData"]
    let members : List (String × Json) := [("url", .string "http://dp:9000"),
      ("colour", .object [("id", .null), ("id", .null)]),
      ("properties", .object [("zone", .string "b")]), ("allowed_source_types", sources),
      ("id", .string "dp-1")]
    let row := Json.array [.string "dp-2", .string "http://dp:9000/", .array [], .array [],
      .object []]
    let settings (plane : Json) : List (String × Json) := [("data_planes", .array [plane, row]),
      ("rotation", .string "daily"), ("control", .object []), ("version", .number (.integer 2)),
      ("use_json", .bool false), ("log_file", .string "app.log"), ("log_level", .string "info"),
      ("log_dir", .string "./logs")]
    let request : Request := ⟨.ofNumbers 0x67E5504410B126F 0x247BB680E5FE0C8, "tp-1", true,
      .ofType "Ftp", .ofType "S3", none, none⟩
    let posted : List (String × Json) := [("callbackAddress", .null), ("processId", .string "tp-1"),
      ("destinationDataAddress", .array [.string "S3", .object []]), ("trackable", .bool true),
      ("requestId", .string "\x7b67E55044-10B1-426F-8247-BB680E5FE0C8\x7d"),
      ("sourceDataAddress", .object [("type", .string "Ftp")])]
    Config.decode (Json.object (settings (.object members))) =
        .ok ⟨"info", "./logs", "app.log", false, "daily", .default, [i, .located "dp-2" base]⟩ ∧
      (∃ e, Config.decode (Json.object
        (settings (.object (("allowedSourceTypes", sources) :: members)))) = .error e) ∧
      Request.decode (Json.object posted) = .ok request := by
  intro base i sources members row settings request posted
  obtain ⟨_, _, _, hrequest, _, _, _, hconfig⟩ := records_read_however_spelled
  have hurl : Url.parse "http://dp:9000" = .ok base := by
    dsimp only [base]
    decide +kernel
  have hslash : Url.parse "http://dp:9000/" = .ok base := by
    dsimp only [base]
    decide +kernel
  have htypes : ∀ t, t ∈ ["HttpData", "Ftp", "HttpData"] ↔ t ∈ i.sourceTypes := by
    intro t
    change _ ↔ t ∈ (TypeSet.empty.insert "Ftp").insert "HttpData"
    simp only [List.mem_cons, List.not_mem_nil, TypeSet.mem_insert, TypeSet.not_mem_empty]
    tauto
  have hplane : Instance.spelling.Spells (.object members) i := by
    apply spells_object
    · simp only [List.forall_mem_cons]
      exact ⟨.inl ⟨_, rfl, rfl⟩, .inl ⟨_, rfl, _, rfl, hurl⟩, .inl ⟨_, rfl, _, rfl, htypes⟩,
        .inr ⟨rfl, rfl⟩, .inl ⟨_, rfl, [("zone", "b")], rfl, .refl _⟩, List.forall_mem_nil _⟩
    · dsimp only [members, sources]
      decide
  have hrow : Instance.spelling.Spells row (.located "dp-2" base) :=
    .cons rfl <| .cons ⟨_, rfl, hslash⟩ <| .cons ⟨[], rfl, fun _ => .rfl⟩ <|
      .cons ⟨[], rfl, fun _ => .rfl⟩ <| .cons ⟨[], rfl, .refl _⟩ .nil
  have hid : Uuid.parse? "\x7b67E55044-10B1-426F-8247-BB680E5FE0C8\x7d" =
      some (.ofNumbers 0x67E5504410B126F 0x247BB680E5FE0C8) := by decide
  refine ⟨?_, ?_, ?_⟩
  · apply hconfig.of_spells
    apply spells_object
    · simp only [List.forall_mem_cons]
      exact ⟨.inl ⟨_, rfl, rfl⟩, .inl ⟨_, rfl, rfl⟩, .inl ⟨_, rfl, rfl⟩, .inl ⟨_, rfl, rfl⟩,
        .inl ⟨_, rfl, rfl⟩, .inl ⟨_, rfl, ControlConfig.spells_empty⟩,
        .inl ⟨_, rfl, _, rfl, .cons hplane (.cons hrow .nil)⟩, List.forall_mem_nil _⟩
    · dsimp only [settings, members, sources, row]
      decide
  · have hrepeats : Instance.spelling.Repeats
        (.object (("allowedSourceTypes", sources) :: members)) :=
      ⟨_, .tail _ (.tail _ (.head _)), .inl (by decide)⟩
    have hplanes : (Spelling.list Instance.spelling).Repeats
        (.array [.object (("allowedSourceTypes", sources) :: members), row]) :=
      ⟨_, rfl, _, .head _, hrepeats⟩
    apply hconfig.of_repeats
    exact ⟨_, List.mem_of_getElem? (i := 6) rfl, .inr ⟨_, .head _, .head _, hplanes⟩⟩
  · apply hrequest.of_spells
    apply spells_object
    · simp only [List.forall_mem_cons]
      exact ⟨.inl ⟨_, rfl, _, rfl, hid⟩, .inl ⟨_, rfl, rfl⟩, .inl ⟨_, rfl, rfl⟩,
        .inl ⟨_, rfl, Address.spells_type "Ftp"⟩, .inl ⟨_, rfl, Address.spells_row "S3"⟩,
        .inr ⟨rfl, rfl⟩, .inl ⟨_, rfl, rfl⟩, List.forall_mem_nil _⟩
    · dsimp only [posted]
      decide

end FlowBroker
