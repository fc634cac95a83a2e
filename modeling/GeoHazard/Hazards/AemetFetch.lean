import GeoHazard.Core.HttpGet
import GeoHazard.Hazards.Parsers
import GeoHazard.Hazards.SyncJobs
import GeoHazard.Notifications.HttpChannel

namespace GeoHazard
open CappedLoop

def ParseError.class_name : ParseError → String
  | .key_error _ => "KeyError"
  | .type_error => "TypeError"
  | .value_error _ => "ValueError"
  | .index_error => "IndexError"
  | .overflow_error => "OverflowError"
  | .recursion_error => "RecursionError"
  | .protocol_error _ => "AemetProtocolError"

-- a tarfile.TarError with its text, or what a decompressor raises
inductive TarFailure where
  | tar_error (message : String)
  | raised (class_name : String)

-- what extractfile gives and its read; a file is read up to the size its header declares
structure TarMember where
  name : String
  isfile : Bool
  size : Nat
  file : Option (Except TarFailure Bytes)
  read_le : ∀ payload, file = some (.ok payload) → payload.length ≤ size

-- what json, urllib, httpx, tarfile and ElementTree make of what comes from the network
structure WireLib where
  url : UrlLib
  text : TextLib
  loads : String → Except ParseError JsonValue
  fromstring : Bytes → Except String Element
  tar_open : Bytes → Except TarFailure (Nat → Event TarMember TarFailure)

-- an AemetError, or an exception that is none
inductive FetchError where
  | client (e : ClientError)
  | other (class_name : String)

def FetchError.transient (message : String) : FetchError := .client (.transient message)

def FetchError.protocol (message : String) : FetchError := .client (.protocol message)

structure HttpSettings where
  AEMET_API_KEY : String
  HTTP_MAX_RESPONSE_BYTES : Nat

def truthy_value : JsonValue → Bool
  | .null => false
  | .bool b => b
  | .int n => n != 0
  | .float x => x.magnitude != 0
  | .str s => s != ""
  | .arr xs => !xs.isEmpty
  | .obj kvs => !kvs.isEmpty

def equals_int (n : Nat) : JsonValue → Bool
  | .bool b => decide ((if b then 1 else 0) = n)
  | .int m => decide (m = n)
  | .float x => (PyFloat.of_nat n).any (fun y => !x.isnan && decide (x.order = y.order))
  | _ => false

-- the eight places where ISO-8859-15 differs from ISO-8859-1
def LATIN_9 : List (UInt8 × Char) :=
  [(0xa4, '€'), (0xa6, 'Š'), (0xa8, 'š'), (0xb4, 'Ž'), (0xb8, 'ž'), (0xbc, 'Œ'), (0xbd, 'œ'),
    (0xbe, 'Ÿ')]

def decode_latin_9 (raw : Bytes) : String :=
  String.ofList (raw.map (fun b => (Dict.get b LATIN_9).getD (Char.ofNat b.toNat)))

namespace AemetHttpClient

def LAST_BULLETIN_URL : String :=
  "https://opendata.aemet.es/opendata/api/avisos_cap/ultimoelaborado/area/esp"

def MAX_TAR_MEMBER_BYTES : Nat := 10 * 1024 * 1024

def MAX_ENVELOPE_BYTES : Nat := 64 * 1024

def MAX_TAR_MEMBERS : Nat := 10000

variable (w : WireLib) (settings : HttpSettings)

def http_failure (too_large : String) : HttpFailure → FetchError
  | .http_error exc => .transient ("AEMET OpenData unreachable: " ++ exc)
  | .response_too_large exc => .transient (too_large ++ exc)
  | .invalid_url => .other "InvalidURL"

def load_envelope (raw : Bytes) : Except FetchError JsonValue :=
  match w.loads (decode_latin_9 raw) with
  | .ok envelope => .ok envelope
  | .error (.value_error _) => .error (.protocol "AEMET envelope is not JSON")
  | .error e => .error (.other e.class_name)

def get (key : String) (default : JsonValue) : JsonValue → Except FetchError JsonValue
  | .obj kvs => .ok ((Dict.get key kvs).getD default)
  | _ => .error (.other "AttributeError")

def check_datos (datos_url : JsonValue) : Except FetchError String :=
  match datos_url with
  | .str datos_url =>
      match w.url.urlsplit datos_url with
      | none => .error (.other "ValueError")
      | some parsed =>
          if parsed.scheme ≠ "https" ∨ parsed.hostname ≠ some "opendata.aemet.es" then
            .error (.protocol ("AEMET datos URL outside opendata.aemet.es: " ++
              w.text.repr (.str datos_url)))
          else .ok datos_url
  | _ => .error (.other "AttributeError")

def read_envelope (status_code : Nat) (raw : Bytes) : Except FetchError String := do
  if 500 ≤ status_code then .error (.transient ("AEMET API returned " ++ toString status_code))
  else do
    let envelope ← load_envelope w raw
    let estado ← get "estado" .null envelope
    let datos_url ← get "datos" .null envelope
    if equals_int 429 estado then .error (.transient "AEMET API quota exhausted")
    else if equals_int 200 estado = false ∨ truthy_value datos_url = false then do
      let descripcion ← get "descripcion" (.str "sin descripcion") envelope
      .error (.protocol ("AEMET envelope estado=" ++ w.text.repr estado ++ ": " ++
        w.text.repr descripcion))
    else check_datos w datos_url

def bulletin_request : HttpRequest := ⟨LAST_BULLETIN_URL, [], [("api_key", settings.AEMET_API_KEY)]⟩

def datos_request (datos_url : String) : HttpRequest := ⟨datos_url, [], []⟩

def fetch_archive (network : Network) (sent : List HttpRequest) :
    List HttpRequest × Except FetchError Bytes :=
  match get_capped w.url.invalid_url network sent (bulletin_request settings) MAX_ENVELOPE_BYTES
      true with
  | (sent, .error e) => (sent, .error (http_failure "AEMET envelope too large: " e))
  | (sent, .ok (status_code, raw)) =>
      match read_envelope w status_code raw with
      | .error e => (sent, .error e)
      | .ok datos_url =>
          match get_capped w.url.invalid_url network sent (datos_request datos_url)
              settings.HTTP_MAX_RESPONSE_BYTES false with
          | (sent, .error e) =>
              (sent, .error (http_failure "AEMET datos URL response too large: " e))
          | (sent, .ok (status_code, body)) =>
              if status_code ≠ 200 then
                (sent, .error (.transient ("AEMET datos URL returned " ++ toString status_code)))
              else (sent, .ok body)

def parse_payload (payload : Bytes) : Except ParseError AemetWarning :=
  match w.fromstring payload with
  | .error exc => .error (.protocol_error ("unparseable CAP XML: " ++ exc))
  | .ok root => AemetParser.parse_cap w.text root

def archive_failure : TarFailure → FetchError
  | .tar_error exc => .protocol ("AEMET datos URL did not return a tar: " ++ exc)
  | .raised class_name => .other class_name

def read_member (state : List AemetWarning × Nat) (member : TarMember) :
    Except FetchError (List AemetWarning × Nat) :=
  if member.isfile = false then .ok state
  else if MAX_TAR_MEMBER_BYTES < member.size then
    .error (.protocol ("AEMET tar member " ++ w.text.repr (.str member.name) ++ " too large (" ++
      toString member.size ++ " bytes)"))
  else
    match member.file with
    | none => .ok state
    | some (.error e) => .error (archive_failure e)
    | some (.ok payload) =>
        match parse_payload w payload with
        | .ok warning => .ok (state.1 ++ [warning], state.2)
        | .error (.protocol_error _) => .ok (state.1, state.2 + 1)
        | .error e => .error (.other e.class_name)

def member_loop : Loop TarMember FetchError (List AemetWarning × Nat) where
  cap := MAX_TAR_MEMBERS
  weight _ := 1
  exceeded := .protocol ("AEMET tar has too many members (> " ++ toString MAX_TAR_MEMBERS ++ ")")
  step := read_member w
  weight_pos _ := Nat.one_pos

def parse_archive (data : Bytes) : Except FetchError (List AemetWarning) :=
  match w.tar_open data with
  | .error e => .error (archive_failure e)
  | .ok archive =>
      match (member_loop w).run (fun i => (archive i).mapError archive_failure) 0 0 ([], 0) with
      | .error e => .error e
      | .ok (warnings, skipped) =>
          if skipped ≠ 0 ∧ warnings = [] then
            .error (.protocol "every CAP file in the AEMET tar failed to parse")
          else .ok warnings

def fetch_warnings (network : Network) (sent : List HttpRequest) :
    List HttpRequest × Except FetchError (List AemetWarning) :=
  let (sent, archive) := fetch_archive w settings network sent
  (sent, archive >>= parse_archive w)

variable {w : WireLib} {settings : HttpSettings} {network : Network} {sent : List HttpRequest}

def OfAemet (w : WireLib) (url : String) : Prop :=
  ∃ parsed, w.url.urlsplit url = some parsed ∧ parsed.scheme = "https" ∧
    parsed.hostname = some "opendata.aemet.es"

theorem check_datos_ok {datos_url : JsonValue} {url : String} :
    check_datos w datos_url = .ok url ↔ datos_url = .str url ∧ OfAemet w url := by
  cases datos_url with
  | str s =>
      simp only [check_datos, OfAemet, Json.str.injEq]
      cases hp : w.url.urlsplit s with
      | none =>
          simp only [reduceCtorEq, false_iff, not_and]
          rintro rfl ⟨parsed, hsome, -⟩
          simp [hp] at hsome
      | some parsed =>
          dsimp only
          split
          · next hbad =>
              simp only [reduceCtorEq, false_iff, not_and]
              rintro rfl ⟨parsed', hsome, hscheme, hhost⟩
              obtain rfl := Option.some.inj (hp.symm.trans hsome)
              exact hbad.elim (fun h => h hscheme) (fun h => h hhost)
          · next hgood =>
              simp only [not_or, not_not] at hgood
              rw [Except.ok.injEq]
              constructor
              · rintro rfl
                exact ⟨rfl, parsed, hp, hgood⟩
              · exact And.left
  | _ => simp [check_datos]

-- the envelope of a success: estado 200, and in datos a url of AEMET by https
structure EnvelopeOk (w : WireLib) (status_code : Nat) (raw : Bytes) (url : String) : Prop where
  answered : status_code < 500
  envelope : ∃ kvs estado, w.loads (decode_latin_9 raw) = .ok (.obj kvs) ∧
    Dict.get "estado" kvs = some estado ∧ equals_int 200 estado = true ∧
    Dict.get "datos" kvs = some (.str url)
  not_empty : url ≠ ""
  of_aemet : OfAemet w url

theorem load_envelope_ok {raw : Bytes} {envelope : JsonValue} :
    load_envelope w raw = .ok envelope ↔ w.loads (decode_latin_9 raw) = .ok envelope := by
  rw [load_envelope]
  split <;> simp_all

theorem get_ok {key : String} {envelope v : JsonValue} :
    get key .null envelope = .ok v ↔ ∃ kvs, envelope = .obj kvs ∧ (Dict.get key kvs).getD .null = v := by
  cases envelope <;> simp [get]

theorem get_some_of_getD {key : String} {kvs : List (String × JsonValue)} {v : JsonValue}
    (h : (Dict.get key kvs).getD .null = v) (hv : v ≠ .null) : Dict.get key kvs = some v := by
  cases hg : Dict.get key kvs with
  | none => exact absurd (by rw [← h, hg]; rfl) hv
  | some u => rw [← h, hg]; rfl

theorem not_429_of_200 {estado : JsonValue} (h : equals_int 200 estado = true) :
    equals_int 429 estado = false := by
  cases estado with
  | bool b => cases b <;> simp [equals_int] at h
  | int n =>
      simp only [equals_int, decide_eq_true_eq] at h
      subst h
      rfl
  | float x =>
      have hfloats : PyFloat.of_nat 200 = some ⟨0x4069000000000000⟩ ∧
          PyFloat.of_nat 429 = some ⟨0x407ad00000000000⟩ := by decide +kernel
      simp only [equals_int, hfloats, Option.any_some, Bool.and_eq_true, decide_eq_true_eq] at h ⊢
      rw [h.2, Bool.and_eq_false_iff]
      exact .inr (by decide +kernel)
  | _ => simp [equals_int] at h

theorem read_envelope_iff {status_code : Nat} {raw : Bytes} {url : String} :
    read_envelope w status_code raw = .ok url ↔ EnvelopeOk w status_code raw url := by
  unfold read_envelope
  split
  · next h =>
      simp only [reduceCtorEq, false_iff]
      exact fun hok => absurd hok.answered (by omega)
  · next h =>
      simp only [bind_ok, load_envelope_ok, get_ok]
      constructor
      · rintro ⟨envelope, hload, estado, ⟨kvs, rfl, hestado⟩, datos_url, ⟨_, hsame, hdatos⟩, h⟩
        obtain rfl := Json.obj.inj hsame
        split at h
        · simp at h
        · split at h
          · simp [bind_ok] at h
          · next hgood =>
              obtain ⟨h200, htruthy⟩ := not_or.mp hgood
              obtain ⟨rfl, haemet⟩ := check_datos_ok.mp h
              have hestado_null : estado ≠ .null := by
                rintro rfl
                exact h200 rfl
              refine ⟨by omega, ⟨kvs, estado, hload, get_some_of_getD hestado hestado_null,
                by simpa using h200, get_some_of_getD hdatos (by simp)⟩, ?_, haemet⟩
              rintro rfl
              exact htruthy rfl
      · rintro ⟨-, ⟨kvs, estado, hload, hestado, h200, hdatos⟩, hne, haemet⟩
        refine ⟨_, hload, estado, ⟨kvs, rfl, by rw [hestado]; rfl⟩, .str url,
          ⟨kvs, rfl, by rw [hdatos]; rfl⟩, ?_⟩
        have htruthy : truthy_value (.str url) = true := by simpa [truthy_value] using hne
        rw [not_429_of_200 h200, h200, htruthy]
        simpa using check_datos_ok.mpr ⟨rfl, haemet⟩

-- the answer to a bulletin request that names where its archive is
structure Names (w : WireLib) (settings : HttpSettings) (network : Network)
    (sent : List HttpRequest) (url : String) : Prop where
  answer : ∃ status_code body raw,
    network (sent ++ [bulletin_request settings]) = .response status_code body ∧ Whole body raw ∧
    raw.length ≤ MAX_ENVELOPE_BYTES ∧ EnvelopeOk w status_code raw url

-- the requests of one fetch: none where httpx refuses the url, and the second only where the
-- answer to the first one says
inductive Hops (w : WireLib) (settings : HttpSettings) (network : Network)
    (sent : List HttpRequest) : List HttpRequest → Prop
  | none : Hops w settings network sent []
  | bulletin : Hops w settings network sent [bulletin_request settings]
  | datos {url : String} (h : Names w settings network sent url) :
      Hops w settings network sent [bulletin_request settings, datos_request url]

theorem get_bulletin {after : List HttpRequest} {status_code : Nat} {raw : Bytes} {url : String}
    (hget : get_capped w.url.invalid_url network sent (bulletin_request settings)
      MAX_ENVELOPE_BYTES true = (after, .ok (status_code, raw)))
    (hread : read_envelope w status_code raw = .ok url) :
    after = sent ++ [bulletin_request settings] ∧ Names w settings network sent url := by
  obtain ⟨_, rfl, body, hn, h⟩ := get_capped_ok_iff.mp hget
  rw [if_pos (.inr rfl)] at h
  exact ⟨rfl, ⟨status_code, body, raw, hn, h.1, h.2, read_envelope_iff.mp hread⟩⟩

theorem bulletin_hops (w : WireLib) (settings : HttpSettings) (network : Network)
    (sent : List HttpRequest) : ∃ asked,
    (get_capped w.url.invalid_url network sent (bulletin_request settings) MAX_ENVELOPE_BYTES true).1 =
      sent ++ asked ∧ Hops w settings network sent asked := by
  rcases @get_capped_sent w.url.invalid_url network sent (bulletin_request settings)
    MAX_ENVELOPE_BYTES true with h | h
  · exact ⟨[], by simpa using h, .none⟩
  · exact ⟨_, h, .bulletin⟩

theorem datos_hops {url : String} (hnames : Names w settings network sent url) : ∃ asked,
    (get_capped w.url.invalid_url network (sent ++ [bulletin_request settings]) (datos_request url)
      settings.HTTP_MAX_RESPONSE_BYTES false).1 = sent ++ asked ∧
    Hops w settings network sent asked := by
  rcases @get_capped_sent w.url.invalid_url network (sent ++ [bulletin_request settings])
    (datos_request url) settings.HTTP_MAX_RESPONSE_BYTES false with h | h
  · exact ⟨_, h, .bulletin⟩
  · exact ⟨[bulletin_request settings, datos_request url], by rw [h]; simp, .datos hnames⟩

theorem fetch_archive_asked (w : WireLib) (settings : HttpSettings) (network : Network)
    (sent : List HttpRequest) : ∃ asked,
    (fetch_archive w settings network sent).1 = sent ++ asked ∧ Hops w settings network sent asked := by
  have hfirst := bulletin_hops w settings network sent
  unfold fetch_archive
  split
  · next hget => simpa only [hget] using hfirst
  · next after status_code raw hget =>
      split
      · simpa only [hget] using hfirst
      · next url hread =>
          obtain ⟨rfl, hnames⟩ := get_bulletin hget hread
          have hsecond := datos_hops hnames
          split
          · next hget2 => simpa only [hget2] using hsecond
          · next hget2 =>
              split
              · simpa only [hget2] using hsecond
              · simpa only [hget2] using hsecond

theorem fetch_archive_ok_iff {after : List HttpRequest} {data : Bytes} :
    fetch_archive w settings network sent = (after, .ok data) ↔
      w.url.invalid_url LAST_BULLETIN_URL = false ∧ ∃ url body, Names w settings network sent url ∧
      w.url.invalid_url url = false ∧
      after = sent ++ [bulletin_request settings, datos_request url] ∧
      network after = .response 200 body ∧ Whole body data ∧
      data.length ≤ settings.HTTP_MAX_RESPONSE_BYTES := by
  constructor
  · intro h
    unfold fetch_archive at h
    split at h
    · simp at h
    · next first status_code raw hget =>
        split at h
        · simp at h
        · next url hread =>
            have hvalid := (get_capped_ok_iff.mp hget).1
            obtain ⟨rfl, hnames⟩ := get_bulletin hget hread
            split at h
            · simp at h
            · next hget2 =>
                obtain ⟨hvalid2, rfl, body, hn, hbody⟩ := get_capped_ok_iff.mp hget2
                split at h
                · simp at h
                · next hok =>
                    rw [not_not] at hok
                    subst hok
                    rw [if_pos (.inl rfl)] at hbody
                    obtain ⟨rfl, hd⟩ := Prod.mk.inj h
                    obtain rfl := Except.ok.inj hd
                    exact ⟨hvalid, url, body, hnames, hvalid2, by simp, hn, hbody⟩
  · rintro ⟨hvalid, url, body, ⟨status_code, first, raw, hn, hw, hle, hread⟩, hvalid2, rfl, hn2, hw2,
      hle2⟩
    have hget : get_capped w.url.invalid_url network sent (bulletin_request settings)
        MAX_ENVELOPE_BYTES true = (sent ++ [bulletin_request settings], .ok (status_code, raw)) :=
      get_capped_ok_iff.mpr ⟨hvalid, rfl, first, hn, by rw [if_pos (.inr rfl)]; exact ⟨hw, hle⟩⟩
    have hget2 : get_capped w.url.invalid_url network (sent ++ [bulletin_request settings])
        (datos_request url) settings.HTTP_MAX_RESPONSE_BYTES false =
          (sent ++ [bulletin_request settings] ++ [datos_request url], .ok (200, data)) :=
      get_capped_ok_iff.mpr ⟨hvalid2, rfl, body, by simpa using hn2, by
        rw [if_pos (.inl rfl)]
        exact ⟨hw2, hle2⟩⟩
    simp [fetch_archive, hget, read_envelope_iff.mpr hread, hget2]

def ReadableMember (member : TarMember) : Prop :=
  member.isfile = true → member.size ≤ MAX_TAR_MEMBER_BYTES ∧
    ∀ failure, member.file ≠ some (.error failure)

def payload_of (member : TarMember) : Option Bytes :=
  if member.isfile then member.file.bind Except.toOption else none

def warning_of (w : WireLib) (member : TarMember) : Option AemetWarning :=
  (payload_of member).bind (fun payload => (parse_payload w payload).toOption)

def skipped_file (w : WireLib) (member : TarMember) : Bool :=
  (payload_of member).any (fun payload => !(parse_payload w payload).isOk)

theorem parse_moment_error {lib : TextLib} {text : String} {e : ParseError}
    (h : AemetParser.parse_moment lib text = .error e) : ∃ message, e = .protocol_error message := by
  simp only [AemetParser.parse_moment] at h
  cases hf : lib.fromisoformat text with
  | none =>
      rw [hf] at h
      exact ⟨_, (Except.error.inj h).symm⟩
  | some moment => simp [hf, raise_none] at h

theorem optional_moment_error {lib : TextLib} {text : Option String} {e : ParseError}
    (h : AemetParser.optional_moment lib text = .error e) : ∃ message, e = .protocol_error message := by
  unfold AemetParser.optional_moment at h
  split at h
  · simp at h
  · next text _ =>
      cases hm : AemetParser.parse_moment lib text with
      | error e' =>
          rw [hm] at h
          obtain rfl := Except.error.inj h
          exact parse_moment_error hm
      | ok moment => simp [hm, Except.map] at h

theorem parse_cap_error {root : Element} {e : ParseError}
    (h : AemetParser.parse_cap w.text root = .error e) : ∃ message, e = .protocol_error message := by
  unfold AemetParser.parse_cap at h
  split at h
  · rcases bind_error.mp h with hm | ⟨_, _, h⟩
    · exact parse_moment_error hm
    · split at h
      · simp at h
      · rcases bind_error.mp h with hm | ⟨_, _, h⟩
        · exact optional_moment_error hm
        · rcases bind_error.mp h with hm | ⟨_, _, h⟩
          · exact optional_moment_error hm
          · simp at h
  · exact ⟨_, (Except.error.inj h).symm⟩

theorem parse_payload_error {payload : Bytes} {e : ParseError}
    (h : parse_payload w payload = .error e) : ∃ message, e = .protocol_error message := by
  unfold parse_payload at h
  split at h
  · exact ⟨_, (Except.error.inj h).symm⟩
  · exact parse_cap_error h

theorem toOption_some {ε α : Type} {r : Except ε α} {a : α} : r.toOption = some a ↔ r = .ok a := by
  cases r <;> simp [Except.toOption]

theorem payload_of_some {member : TarMember} {payload : Bytes} :
    payload_of member = some payload ↔
      member.isfile = true ∧ member.file = some (.ok payload) := by
  simp [payload_of, Option.bind_eq_some_iff, toOption_some]

theorem warning_of_some {member : TarMember} {warning : AemetWarning} :
    warning_of w member = some warning ↔
      ∃ payload, payload_of member = some payload ∧ parse_payload w payload = .ok warning := by
  simp [warning_of, Option.bind_eq_some_iff, toOption_some]

theorem of_payload {member : TarMember} {payload : Bytes} (h : payload_of member = some payload) :
    warning_of w member = (parse_payload w payload).toOption ∧
      skipped_file w member = !(parse_payload w payload).isOk := by
  simp [warning_of, skipped_file, h]

theorem read_member_iff {state state' : List AemetWarning × Nat} {member : TarMember} :
    read_member w state member = .ok state' ↔ ReadableMember member ∧
      state' = (state.1 ++ (warning_of w member).toList,
        state.2 + if skipped_file w member then 1 else 0) := by
  unfold read_member
  split
  · next hfile =>
      have hnone : payload_of member = none := by simp [payload_of, hfile]
      simp [ReadableMember, hfile, warning_of, skipped_file, hnone, eq_comm]
  · next hfile =>
      rw [Bool.not_eq_false] at hfile
      split
      · next hsize =>
          simp only [reduceCtorEq, false_iff, not_and]
          exact fun hr => absurd (hr hfile).1 (Nat.not_le.mpr hsize)
      · next hsize =>
          have hle : member.size ≤ MAX_TAR_MEMBER_BYTES := Nat.le_of_not_lt hsize
          split
          · next hnone =>
              have hp : payload_of member = none := by simp [payload_of, hnone]
              have hr : ReadableMember member := fun _ => ⟨hle, by simp [hnone]⟩
              simp [hr, warning_of, skipped_file, hp, eq_comm]
          · next failure hfailure =>
              simp only [reduceCtorEq, false_iff, not_and]
              exact fun hr => absurd hfailure ((hr hfile).2 failure)
          · next payload hpayload =>
              obtain ⟨hwarning, hskipped⟩ := @of_payload w _ _ (payload_of_some.mpr ⟨hfile, hpayload⟩)
              have hr : ReadableMember member := fun _ => ⟨hle, fun failure => by simp [hpayload]⟩
              split
              · next warning hw =>
                  simp [hr, hwarning, hskipped, hw, Except.toOption, Except.isOk, Except.toBool, eq_comm]
              · next message hw =>
                  simp [hr, hwarning, hskipped, hw, Except.toOption, Except.isOk, Except.toBool, eq_comm]
              · next e hno hw =>
                  obtain ⟨message, rfl⟩ := parse_payload_error hw
                  exact absurd rfl (hno message)

theorem taken_members {events : Nat → Event TarMember FetchError} {i : Nat}
    {s s' : List AemetWarning × Nat} {members : List TarMember} :
    Taken (member_loop w) events i s members s' ↔ Items events i members ∧
      (∀ member ∈ members, ReadableMember member) ∧
      s' = (s.1 ++ members.filterMap (warning_of w), s.2 + members.countP (skipped_file w)) := by
  constructor
  · intro h
    refine ⟨h.items, ?_⟩
    induction h with
    | nil => simp
    | cons _ hs _ ih =>
        obtain ⟨hr, rfl⟩ := read_member_iff.mp hs
        obtain ⟨hall, rfl⟩ := ih
        refine ⟨by simpa [hr] using hall, ?_⟩
        simp only [List.filterMap_cons, List.countP_cons, Prod.mk.injEq]
        refine ⟨?_, by omega⟩
        cases warning_of w _ <;> simp
  · rintro ⟨hi, hall, rfl⟩
    induction members generalizing i s with
    | nil => simpa using Taken.nil i s
    | cons member members ih =>
        have hstep : (member_loop w).step s member = .ok _ :=
          read_member_iff.mpr ⟨hall member (by simp), rfl⟩
        have hrest := ih (s := (s.1 ++ (warning_of w member).toList,
          s.2 + if skipped_file w member then 1 else 0)) hi.2 (fun m hm => hall m (by simp [hm]))
        refine .cons hi.1 hstep ?_
        convert hrest using 2
        · cases hw : warning_of w member <;> simp [hw]
        · simp only [List.countP_cons]
          omega

-- an archive that ends within the cap, whose files can all be read
structure Archive (w : WireLib) (data : Bytes) (members : List TarMember) : Prop where
  opened : ∃ archive, w.tar_open data = .ok archive ∧ Items archive 0 members ∧
    archive members.length = .stop
  count : members.length ≤ MAX_TAR_MEMBERS
  readable : ∀ member ∈ members, ReadableMember member

theorem total_members (members : List TarMember) :
    Dict.total (member_loop w).weight members = members.length := by
  induction members with
  | nil => rfl
  | cons member members ih =>
      rw [Dict.total_cons, ih, List.length_cons, Nat.add_comm]
      rfl

theorem parse_archive_ok_iff {data : Bytes} {warnings : List AemetWarning} :
    parse_archive w data = .ok warnings ↔ ∃ members, Archive w data members ∧
      warnings = members.filterMap (warning_of w) ∧
      (warnings = [] → members.countP (skipped_file w) = 0) := by
  unfold parse_archive
  constructor
  · intro h
    split at h
    · simp at h
    · next archive harchive =>
        split at h
        · simp at h
        · next found count hrun =>
            obtain ⟨members, ht, hle, hstop⟩ := run_ok hrun (Nat.zero_le _)
            obtain ⟨hi, hall, hend⟩ := taken_members.mp ht
            obtain ⟨rfl, rfl⟩ := Prod.mk.inj hend
            split at h
            · simp at h
            · next hno =>
                obtain rfl := Except.ok.inj h
                refine ⟨members, ⟨⟨archive, harchive, items_mapError.mp hi, by simpa using hstop⟩,
                  length_taken_le hle, hall⟩, by simp, fun hempty => ?_⟩
                by_contra hskip
                exact hno ⟨by simpa using hskip, hempty⟩
  · rintro ⟨members, ⟨⟨archive, harchive, hi, hstop⟩, hcount, hall⟩, rfl, hskip⟩
    have ht := (taken_members (w := w) (s := ([], 0))).mpr
      ⟨(items_mapError (f := archive_failure)).mpr hi, hall, rfl⟩
    have hle : 0 + Dict.total (member_loop w).weight members ≤ (member_loop w).cap := by
      rw [total_members, Nat.zero_add]
      exact hcount
    have hrun := run_of_taken ht hle (by simpa using hstop)
    simp only [harchive, hrun, List.nil_append, Nat.zero_add]
    split
    · next hno => exact absurd (hskip hno.2) hno.1
    · rfl

-- a file of the archive that is read, none of them over the size that a header may declare
def HoldsFile (members : List TarMember) (payload : Bytes) : Prop :=
  ∃ member ∈ members, payload_of member = some payload ∧ payload.length ≤ MAX_TAR_MEMBER_BYTES

theorem holds_of_warning {data : Bytes} {members : List TarMember} (h : Archive w data members)
    {warning : AemetWarning} (hw : warning ∈ members.filterMap (warning_of w)) :
    ∃ payload, HoldsFile members payload ∧ parse_payload w payload = .ok warning := by
  obtain ⟨member, hm, hof⟩ := List.mem_filterMap.mp hw
  obtain ⟨payload, hp, hparse⟩ := warning_of_some.mp hof
  obtain ⟨hfile, hread⟩ := payload_of_some.mp hp
  have hsize : member.size ≤ MAX_TAR_MEMBER_BYTES := (h.readable member hm hfile).1
  exact ⟨payload, ⟨member, hm, hp, (member.read_le payload hread).trans hsize⟩, hparse⟩

-- all that the network must do for a fetch to succeed, and what it then gives
abbrev Delivers (w : WireLib) (settings : HttpSettings) (network : Network) (sent : List HttpRequest)
    (warnings : List AemetWarning) : Prop :=
  w.url.invalid_url LAST_BULLETIN_URL = false ∧ ∃ url body data members,
    Names w settings network sent url ∧ w.url.invalid_url url = false ∧
    network (sent ++ [bulletin_request settings, datos_request url]) = .response 200 body ∧
    Whole body data ∧ data.length ≤ settings.HTTP_MAX_RESPONSE_BYTES ∧ Archive w data members ∧
    warnings = members.filterMap (warning_of w) ∧
    (warnings = [] → members.countP (skipped_file w) = 0)

theorem fetch_warnings_ok_iff {warnings : List AemetWarning} :
    (fetch_warnings w settings network sent).2 = .ok warnings ↔
      Delivers w settings network sent warnings := by
  simp only [fetch_warnings, bind_ok]
  constructor
  · rintro ⟨data, hdata, hparse⟩
    have hfetch : fetch_archive w settings network sent =
        ((fetch_archive w settings network sent).1, .ok data) := Prod.ext rfl hdata
    obtain ⟨hvalid, url, body, hnames, hvalid2, hsent, hn, hw, hle⟩ := fetch_archive_ok_iff.mp hfetch
    obtain ⟨members, harchive, hwarnings, hskip⟩ := parse_archive_ok_iff.mp hparse
    exact ⟨hvalid, url, body, data, members, hnames, hvalid2, hsent ▸ hn, hw, hle, harchive, hwarnings,
      hskip⟩
  · rintro ⟨hvalid, url, body, data, members, hnames, hvalid2, hn, hw, hle, harchive, hwarnings, hskip⟩
    refine ⟨data, ?_, parse_archive_ok_iff.mpr ⟨members, harchive, hwarnings, hskip⟩⟩
    rw [fetch_archive_ok_iff.mpr ⟨hvalid, url, body, hnames, hvalid2, rfl, hn, hw, hle⟩]

end AemetHttpClient

end GeoHazard
