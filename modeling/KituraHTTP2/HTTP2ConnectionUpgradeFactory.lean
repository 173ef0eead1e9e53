import KituraHTTP2.Connection

/-!
# Upgrading a connection from HTTP/1

A client that speaks HTTP/1 asks for HTTP/2 with the field `HTTP2-Settings`, whose value is the
payload of a SETTINGS frame in base64url.  The factory checks that there is one value and that it
can be decoded, switches protocols, and creates the session; `init(settingsPayload:with:)` gives the
payload to `nghttp2_session_upgrade2` and does not look at the result.

The checks of the factory are therefore not those of nghttp2: with a payload that is not made of
whole settings, stream 1 is never opened, and with one that has an invalid setting, the session is
terminated.  The protocol has been switched all the same.

* `upgrade2_answerable_iff` — for which payloads a new session can answer on stream 1.
* **`upgrade_decides_iff`** — for which requests the factory decides as it should.
* `incomplete_settings_are_accepted` — a payload of three bytes.
-/

namespace KituraHTTP2

variable {P : Platform}

/-! ## The factory -/

/-- `HTTP2Utils.base64urlToBase64`, on a string of ASCII characters. -/
def base64urlToBase64 (base64url : String) : String :=
  let base64 := base64url.toList.map fun c => if c = '-' then '+' else if c = '_' then '/' else c
  String.ofList (if base64.length % 4 ≠ 0 then
    base64 ++ List.replicate (4 - base64.length % 4) '=' else base64)

/-- The raw value of `HTTPStatusCode.switchingProtocols`. -/
def switchingProtocols : ℤ := 101

/-- KituraNet's `ServerResponse`, of which the factory sets the status. -/
structure ServerResponse where
  statusCode : Option ℤ
deriving DecidableEq, Repr

/-- An `HTTP2SocketProcessor`, with its session. -/
structure HTTP2SocketProcessor (P : Platform) where
  http2Session : Connection P
  http1Upgrade : Bool

/-- What `upgrade` returns, and the response it was given. -/
structure UpgradeResult (P : Platform) where
  processor : Option (HTTP2SocketProcessor P)
  message : Option String
  response : ServerResponse

/-- `upgrade` of the factory, where `delegate` says whether `HTTP2.delegate` is set. -/
def upgrade (delegate : Bool) (request : ServerRequest P) (response : ServerResponse) :
    UpgradeResult P :=
  match P.lookup request.headers "HTTP2-Settings" with
  | none => ⟨none,
      some "Upgrade request MUST include exactly one 'HTTP2-Settings' header field.", response⟩
  | some settings =>
    if settings.length ≠ 1 then ⟨none,
      some "Upgrade request MUST include exactly one 'HTTP2-Settings' header field.", response⟩
    else
      match P.base64Decoded (base64urlToBase64 (settings.headD "")) with
      | none => ⟨none, some "Value for 'HTTP2-Settings' is not Base64 URL encoded", response⟩
      | some decodedSettings =>
        let response := { response with statusCode := some switchingProtocols }
        let session := Connection.new P none delegate (some ⟨decodedSettings, some request⟩)
        ⟨some ⟨session, true⟩, none, response⟩

/-! ## What it should decide -/

/-- Decoding base64url: the alphabet has `-` and `_` where that of base64 has `+` and `/`. -/
def base64urlDecoded (P : Platform) (value : String) : Option Bytes :=
  if '+' ∈ value.toList ∨ '/' ∈ value.toList then none
  else P.base64Decoded (base64urlToBase64 value)

/-- The settings that a request offers: its only `HTTP2-Settings` value, decoded. -/
def offeredSettings (request : ServerRequest P) : Option Bytes :=
  match P.lookup request.headers "HTTP2-Settings" with
  | some [value] => base64urlDecoded P value
  | _ => none

/-- The upgrade can work: the request offers settings that `nghttp2_session_upgrade2` accepts. -/
def CanUpgrade (request : ServerRequest P) : Prop :=
  ∃ settings nghttp2, offeredSettings request = some settings ∧
    (Nghttp2.Session.serverNew DataSource).upgrade2 settings = .ok nghttp2

/-- Stream 1 is open, and the HEADERS of a response can be sent on it. -/
def Connection.CanAnswer (connection : Connection P) : Prop :=
  (connection.nghttp2.streams 1).isSome ∧ connection.nghttp2.predicateResponseHeadersSend 1 = none

/-- **What is asked of an upgrade.**  If it can work, it is accepted, with a session that can answer
the initial request; if not, it is refused with a message, and the status of the response is left
as it was. -/
structure DecidesUpgrade (request : ServerRequest P) (response : ServerResponse)
    (result : UpgradeResult P) : Prop where
  accepted : CanUpgrade request → ∃ processor, result.processor = some processor ∧
    result.response.statusCode = some switchingProtocols ∧ processor.http2Session.CanAnswer
  refused : ¬ CanUpgrade request → result.processor = none ∧ result.message.isSome ∧
    result.response.statusCode = response.statusCode

/-! ## Which settings nghttp2 can work with -/

namespace Nghttp2

/-- The value of the setting is in the range of its kind. -/
def SettingsEntry.Valid (entry : SettingsEntry) : Prop :=
  (entry.settingsId = 2 → entry.value ≤ 1) ∧
  (entry.settingsId = 4 → (entry.value : ℤ) ≤ maxWindowSize) ∧
  (entry.settingsId = 5 → maxFrameSizeMin ≤ entry.value ∧ entry.value ≤ maxFrameSizeMax)

namespace Session

variable {σ : Type} {session session' : Session σ}

/-- An entry ends the connection exactly when its value is out of range. -/
lemma onSettingsEntry_isSome_iff (session : Session σ) (entry : SettingsEntry) :
    (session.onSettingsEntry entry).isSome ↔ entry.Valid := by
  obtain ⟨settingsId, value⟩ := entry
  unfold onSettingsEntry SettingsEntry.Valid
  dsimp only
  split
  case h_1 => simp
  case h_2 => split <;> simp <;> omega
  case h_3 => simp
  case h_4 => split <;> simp <;> omega
  case h_5 => split <;> simp <;> omega
  case h_6 => simp
  case h_7 _ h2 _ h4 h5 _ =>
    simp only [Option.isSome_some, true_iff]
    exact ⟨fun h => (h2 h).elim, fun h => (h4 h).elim, fun h => (h5 h).elim⟩

lemma onSettingsEntry_termOnSend {entry : SettingsEntry}
    (h : session.onSettingsEntry entry = some session') :
    session'.termOnSend = session.termOnSend := by
  unfold onSettingsEntry at h
  dsimp only at h
  split at h
  all_goals first
    | (cases h; rfl)
    | (split at h
       · cases h
       · cases h
         rfl)

/-- SETTINGS terminate the session exactly when one of them is out of range. -/
lemma onSettingsReceived_termOnSend (session : Session σ) (iv : List SettingsEntry) :
    (session.onSettingsReceived iv).termOnSend = false ↔
      session.termOnSend = false ∧ ∀ entry ∈ iv, entry.Valid := by
  induction iv generalizing session with
  | nil => simp [onSettingsReceived]
  | cons entry iv ih =>
    have hvalid := session.onSettingsEntry_isSome_iff entry
    unfold onSettingsReceived
    cases hentry : session.onSettingsEntry entry with
    | none =>
      rw [hentry] at hvalid
      have hinvalid : ¬ entry.Valid := fun hv => nomatch hvalid.2 hv
      simp [terminateSession, hinvalid]
    | some session' =>
      rw [hentry] at hvalid
      simp [ih, onSettingsEntry_termOnSend hentry, hvalid.1 rfl]

/-- A new session accepts the settings of an upgrade when they are whole. -/
lemma upgrade2_serverNew_isOk_iff (settingsPayload : Bytes) :
    (∃ session, (serverNew σ).upgrade2 settingsPayload = .ok session) ↔
      settingsPayload.length % 6 = 0 := by
  have hnew : ¬ 1 ≤ (serverNew σ).lastRecvStreamId := fun h => nomatch h
  unfold upgrade2
  rw [if_neg hnew]
  by_cases hwhole : settingsPayload.length % 6 = 0
  · simp [hwhole]
  · simp [hwhole]

/-- **When an upgraded session can answer.**  Stream 1 is open, and a response can be sent on it
unless one of the settings is out of range. -/
lemma upgrade2_answerable_iff {settingsPayload : Bytes}
    (h : (serverNew σ).upgrade2 settingsPayload = .ok session) :
    ((session.streams 1).isSome ∧ session.predicateResponseHeadersSend 1 = none) ↔
      ∀ entry ∈ unpackSettingsPayload settingsPayload, entry.Valid := by
  have hnew : ¬ 1 ≤ (serverNew σ).lastRecvStreamId := fun h => nomatch h
  unfold upgrade2 at h
  rw [if_neg hnew] at h
  split at h
  · cases h
  · cases h
    have hterm : _ ↔ ∀ entry ∈ unpackSettingsPayload settingsPayload, entry.Valid :=
      (onSettingsReceived_termOnSend (serverNew σ) _).trans (and_iff_right rfl)
    rw [← hterm]
    set opened := (serverNew σ).onSettingsReceived (unpackSettingsPayload settingsPayload)
    have hstream : ((opened.openStream 1).shutdownRead 1).streams 1 = some
        { state := .opening, shutRd := true, shutWr := false, item := none, deferred := false
          remoteWindowSize := opened.remoteSettings.initialWindowSize
          deferred_item := fun hdeferred => absurd hdeferred Bool.false_ne_true } := by
      simp [shutdownRead, openStream, setStream]
    have hclosing : ((opened.openStream 1).shutdownRead 1).termOnSend = opened.termOnSend := rfl
    unfold predicateResponseHeadersSend predicateForStreamSend isClosing
    dsimp only
    rw [hstream, hclosing]
    cases opened.termOnSend with
    | true => simp
    | false => simp [isMyStreamId]

end Session

end Nghttp2

/-! ## Which requests are decided as they should be -/

/-- What the factory does with a value that can be decoded. -/
lemma upgrade_of_decoded (delegate : Bool) {request : ServerRequest P} {value : String}
    {settings : Bytes} (response : ServerResponse)
    (hlookup : P.lookup request.headers "HTTP2-Settings" = some [value])
    (hdecoded : P.base64Decoded (base64urlToBase64 value) = some settings) :
    upgrade delegate request response =
      ⟨some ⟨Connection.new P none delegate (some ⟨settings, some request⟩), true⟩, none,
        ⟨some switchingProtocols⟩⟩ := by
  unfold upgrade
  rw [hlookup]
  dsimp only
  rw [if_neg (by simp), List.headD_cons, hdecoded]

/-- What the factory does where there is no such value. -/
lemma upgrade_of_not_decoded (delegate : Bool) {request : ServerRequest P}
    (response : ServerResponse)
    (hnone : ∀ value settings, P.lookup request.headers "HTTP2-Settings" = some [value] →
      P.base64Decoded (base64urlToBase64 value) ≠ some settings) :
    (upgrade delegate request response).processor = none ∧
      (upgrade delegate request response).message.isSome ∧
      (upgrade delegate request response).response = response := by
  unfold upgrade
  split
  · exact ⟨rfl, rfl, rfl⟩
  · rename_i settings hlookup
    split
    · exact ⟨rfl, rfl, rfl⟩
    · rename_i hcount
      obtain ⟨value, rfl⟩ := List.length_eq_one_iff.1 (not_not.1 hcount)
      split
      · exact ⟨rfl, rfl, rfl⟩
      · rename_i decoded hdecoded
        exact absurd hdecoded (hnone value decoded hlookup)

/-- What a request offers is what its only value decodes to, in base64url. -/
lemma offeredSettings_eq_some_iff {request : ServerRequest P} {settings : Bytes} :
    offeredSettings request = some settings ↔
      ∃ value, P.lookup request.headers "HTTP2-Settings" = some [value] ∧
        ('+' ∉ value.toList ∧ '/' ∉ value.toList) ∧
        P.base64Decoded (base64urlToBase64 value) = some settings := by
  unfold offeredSettings base64urlDecoded
  constructor
  · intro h
    split at h
    · rename_i value hlookup
      obtain ⟨halphabet, hdecoded⟩ := Option.ite_none_left_eq_some.1 h
      exact ⟨value, hlookup, not_or.1 halphabet, hdecoded⟩
    · cases h
  · rintro ⟨value, hlookup, halphabet, hdecoded⟩
    rw [hlookup]
    exact (if_neg (not_or.2 halphabet)).trans hdecoded

/-- The nghttp2 session of an upgrade whose settings are accepted. -/
lemma initSession_of_upgrade2 {settings : Bytes} {nghttp2 : Nghttp2.Session DataSource}
    (h : (Nghttp2.Session.serverNew DataSource).upgrade2 settings = .ok nghttp2) :
    Connection.initSession (some settings) = nghttp2 := by
  unfold Connection.initSession
  dsimp only
  rw [Option.map_some, h]

section Decides

variable {delegate : Bool} {request : ServerRequest P} {response : ServerResponse} {value : String}
  {settings : Bytes}

/-- The settings that are offered with the value are what it decodes to. -/
lemma eq_of_offeredSettings {offered : Bytes} (hoffered : offeredSettings request = some offered)
    (hlookup : P.lookup request.headers "HTTP2-Settings" = some [value])
    (hdecoded : P.base64Decoded (base64urlToBase64 value) = some settings) :
    offered = settings ∧ '+' ∉ value.toList ∧ '/' ∉ value.toList := by
  obtain ⟨value', hlookup', halphabet, hdecoded'⟩ := offeredSettings_eq_some_iff.1 hoffered
  rw [hlookup, Option.some.injEq, List.cons.injEq] at hlookup'
  obtain ⟨rfl, -⟩ := hlookup'
  rw [hdecoded, Option.some.injEq] at hdecoded'
  exact ⟨hdecoded'.symm, halphabet⟩

/-- An accepted request is decided well only if its settings are those of an upgrade that works. -/
lemma valid_of_decidesUpgrade
    (hlookup : P.lookup request.headers "HTTP2-Settings" = some [value])
    (hdecoded : P.base64Decoded (base64urlToBase64 value) = some settings)
    (hdecides : DecidesUpgrade request response (upgrade delegate request response)) :
    ('+' ∉ value.toList ∧ '/' ∉ value.toList) ∧ settings.length % 6 = 0 ∧
      ∀ entry ∈ Nghttp2.Session.unpackSettingsPayload settings, entry.Valid := by
  have hupgrade := upgrade_of_decoded delegate response hlookup hdecoded
  -- the request was accepted, so the upgrade can work
  have hcan : CanUpgrade request := by
    by_contra hcannot
    have hnone := (hdecides.refused hcannot).1
    rw [hupgrade] at hnone
    cases hnone
  obtain ⟨processor, hprocessor, -, hanswer⟩ := hdecides.accepted hcan
  rw [hupgrade, Option.some.injEq] at hprocessor
  subst hprocessor
  obtain ⟨offered, nghttp2, hoffered, haccepts⟩ := hcan
  obtain ⟨rfl, halphabet⟩ := eq_of_offeredSettings hoffered hlookup hdecoded
  refine ⟨halphabet, (Nghttp2.Session.upgrade2_serverNew_isOk_iff _).1 ⟨nghttp2, haccepts⟩, ?_⟩
  rw [← Nghttp2.Session.upgrade2_answerable_iff haccepts, ← initSession_of_upgrade2 haccepts]
  exact hanswer

/-- With such settings the upgrade works, and the request is accepted. -/
lemma decidesUpgrade_of_valid
    (hlookup : P.lookup request.headers "HTTP2-Settings" = some [value])
    (hdecoded : P.base64Decoded (base64urlToBase64 value) = some settings)
    (halphabet : '+' ∉ value.toList ∧ '/' ∉ value.toList) (hwhole : settings.length % 6 = 0)
    (hvalid : ∀ entry ∈ Nghttp2.Session.unpackSettingsPayload settings, entry.Valid) :
    DecidesUpgrade request response (upgrade delegate request response) := by
  have hupgrade := upgrade_of_decoded delegate response hlookup hdecoded
  obtain ⟨nghttp2, haccepts⟩ := (Nghttp2.Session.upgrade2_serverNew_isOk_iff _).2 hwhole
  have hcan : CanUpgrade request :=
    ⟨settings, nghttp2, offeredSettings_eq_some_iff.2 ⟨value, hlookup, halphabet, hdecoded⟩,
      haccepts⟩
  refine ⟨fun _ => ⟨_, congrArg UpgradeResult.processor hupgrade, ?_, ?_⟩,
    fun hcannot => absurd hcan hcannot⟩
  · rw [hupgrade]
  · rw [← Nghttp2.Session.upgrade2_answerable_iff haccepts,
      ← initSession_of_upgrade2 haccepts] at hvalid
    exact hvalid

/-- Where there is nothing to decode, no upgrade can work, and the request is refused. -/
lemma decidesUpgrade_of_not_decoded
    (hnone : ∀ value settings, P.lookup request.headers "HTTP2-Settings" = some [value] →
      P.base64Decoded (base64urlToBase64 value) ≠ some settings) :
    DecidesUpgrade request response (upgrade delegate request response) := by
  obtain ⟨hprocessor, hmessage, hresponse⟩ := upgrade_of_not_decoded delegate response hnone
  have hcannot : ¬ CanUpgrade request := by
    rintro ⟨settings, nghttp2, hoffered, -⟩
    obtain ⟨value, hlookup, -, hdecoded⟩ := offeredSettings_eq_some_iff.1 hoffered
    exact hnone value settings hlookup hdecoded
  refine ⟨fun hcan => absurd hcan hcannot, fun _ => ⟨hprocessor, hmessage, ?_⟩⟩
  rw [hresponse]

end Decides

/-- **When the factory decides as it should.**  A request is accepted exactly when the upgrade can
work, if and only if its `HTTP2-Settings` value, where there is one that decodes as base64, has no
character that base64url replaces, and stands for whole settings whose values are all in range. -/
theorem upgrade_decides_iff (delegate : Bool) (request : ServerRequest P)
    (response : ServerResponse) :
    DecidesUpgrade request response (upgrade delegate request response) ↔
      ∀ value settings, P.lookup request.headers "HTTP2-Settings" = some [value] →
        P.base64Decoded (base64urlToBase64 value) = some settings →
        ('+' ∉ value.toList ∧ '/' ∉ value.toList) ∧ settings.length % 6 = 0 ∧
          ∀ entry ∈ Nghttp2.Session.unpackSettingsPayload settings, entry.Valid := by
  constructor
  · intro hdecides value settings hlookup hdecoded
    exact valid_of_decidesUpgrade hlookup hdecoded hdecides
  · intro hgood
    by_cases hdecodes : ∃ value settings,
        P.lookup request.headers "HTTP2-Settings" = some [value] ∧
          P.base64Decoded (base64urlToBase64 value) = some settings
    · obtain ⟨value, settings, hlookup, hdecoded⟩ := hdecodes
      obtain ⟨halphabet, hwhole, hvalid⟩ := hgood value settings hlookup hdecoded
      exact decidesUpgrade_of_valid hlookup hdecoded halphabet hwhole hvalid
    · exact decidesUpgrade_of_not_decoded fun value settings hlookup hdecoded =>
        hdecodes ⟨value, settings, hlookup, hdecoded⟩

/-- An upgrade request with this `HTTP2-Settings` value. -/
def upgradeRequest (value : String) : ServerRequest Platform.basic where
  headers := [("HTTP2-Settings", [value])]
  url := utf8Encode "/"
  urlURL := { path := "/" }
  remoteAddress := "127.0.0.1"
  method := "GET"
  allData := some []

/-- `SETTINGS_MAX_CONCURRENT_STREAMS` is 100, and `SETTINGS_INITIAL_WINDOW_SIZE` is 2^30 - 1. -/
example : offeredSettings (upgradeRequest "AAMAAABkAAQ_____") =
    some [0, 3, 0, 0, 0, 100, 0, 4, 63, 255, 255, 255] := by decide

/-- **Settings that are not whole are accepted.**  The value `AAAA` stands for three bytes:
`nghttp2_session_upgrade2` refuses them, and the factory switches protocols. -/
theorem incomplete_settings_are_accepted :
    ¬ DecidesUpgrade (upgradeRequest "AAAA") ⟨some 200⟩
      (upgrade true (upgradeRequest "AAAA") ⟨some 200⟩) := by
  intro hdecides
  have hoffered : offeredSettings (upgradeRequest "AAAA") = some [0, 0, 0] := by decide
  have hcannot : ¬ CanUpgrade (upgradeRequest "AAAA") := by
    rintro ⟨settings, nghttp2, hsettings, haccepts⟩
    rw [hoffered, Option.some.injEq] at hsettings
    subst hsettings
    cases haccepts
  have haccepted : (upgrade true (upgradeRequest "AAAA") ⟨some 200⟩).processor.isSome := by decide
  rw [(hdecides.refused hcannot).1] at haccepted
  cases haccepted

end KituraHTTP2
