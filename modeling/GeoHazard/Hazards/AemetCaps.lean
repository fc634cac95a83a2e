import GeoHazard.Hazards.AemetBulletin
import GeoHazard.Hazards.AemetFetch
import GeoHazard.Notifications.DeliverOutcomes

namespace GeoHazard
open CappedLoop

namespace AemetHttpClient

inductive SameMembers :
    Except TarFailure (Nat → Event TarMember TarFailure) →
    Except TarFailure (Nat → Event TarMember TarFailure) → Prop
  | error (e : TarFailure) : SameMembers (.error e) (.error e)
  | ok {archive archive' : Nat → Event TarMember TarFailure}
      (h : ∀ i ≤ MAX_TAR_MEMBERS, archive i = archive' i) : SameMembers (.ok archive) (.ok archive')

-- the key goes with the first request only
def cap_of (settings : HttpSettings) (request : HttpRequest) : Nat :=
  if request.headers = [] then settings.HTTP_MAX_RESPONSE_BYTES else MAX_ENVELOPE_BYTES

variable {w : WireLib} {settings : HttpSettings} {network network' : Network}
  {tar_open' : Bytes → Except TarFailure (Nat → Event TarMember TarFailure)}

theorem fetch_archive_congr {sent : List HttpRequest}
    (h : ∀ sent request, SameReply (cap_of settings request) (network (sent ++ [request]))
      (network' (sent ++ [request]))) :
    fetch_archive w settings network sent = fetch_archive w settings network' sent := by
  have hfirst : get_capped w.url.invalid_url network sent (bulletin_request settings)
      MAX_ENVELOPE_BYTES true =
        get_capped w.url.invalid_url network' sent (bulletin_request settings) MAX_ENVELOPE_BYTES true :=
    get_capped_congr (h sent (bulletin_request settings))
  have hsecond : ∀ sent url, get_capped w.url.invalid_url network sent (datos_request url)
      settings.HTTP_MAX_RESPONSE_BYTES false =
        get_capped w.url.invalid_url network' sent (datos_request url)
          settings.HTTP_MAX_RESPONSE_BYTES false :=
    fun sent url => get_capped_congr (h sent (datos_request url))
  simp only [fetch_archive, hfirst, hsecond]

theorem parse_archive_congr {data : Bytes} (h : SameMembers (w.tar_open data) (tar_open' data)) :
    parse_archive w data = parse_archive { w with tar_open := tar_open' } data := by
  have hloop : member_loop { w with tar_open := tar_open' } = member_loop w := rfl
  simp only [parse_archive, hloop]
  generalize w.tar_open data = opened at h
  generalize tar_open' data = opened' at h
  cases h with
  | error e => rfl
  | @ok archive archive' harchive =>
      have hrun : (member_loop w).run (fun i => (archive i).mapError archive_failure) 0 0 ([], 0) =
          (member_loop w).run (fun i => (archive' i).mapError archive_failure) 0 0 ([], 0) :=
        run_congr (fun k hk => by rw [Nat.zero_add, harchive k hk])
      simp only [hrun]

theorem SameMembers.refl (opened : Except TarFailure (Nat → Event TarMember TarFailure)) :
    SameMembers opened opened := by
  cases opened with
  | error e => exact .error e
  | ok archive => exact .ok (fun _ _ => rfl)

end AemetHttpClient

open AemetHttpClient

theorem aemet_fetch_capped (w : WireLib) (settings : HttpSettings) (network : Network)
    (sent : List HttpRequest) :
    (∀ warnings, (fetch_warnings w settings network sent).2 = .ok warnings ↔
      Delivers w settings network sent warnings) ∧
    ∀ (network' : Network) (tar_open' : Bytes → Except TarFailure (Nat → Event TarMember TarFailure)),
      (∀ sent request, SameReply (cap_of settings request) (network (sent ++ [request]))
        (network' (sent ++ [request]))) →
      (∀ data, SameMembers (w.tar_open data) (tar_open' data)) →
      fetch_warnings w settings network sent =
        fetch_warnings { w with tar_open := tar_open' } settings network' sent := by
  refine ⟨fun _ => fetch_warnings_ok_iff, fun network' tar_open' hn ht => ?_⟩
  have hsame : fetch_archive { w with tar_open := tar_open' } settings network' sent =
      fetch_archive w settings network' sent := rfl
  have hparse : parse_archive { w with tar_open := tar_open' } = parse_archive w :=
    funext (fun data => (parse_archive_congr (ht data)).symm)
  simp only [fetch_warnings, hsame, hparse, fetch_archive_congr hn]

def ascii (text : String) : Bytes := text.toList.map (fun c => UInt8.ofNat c.toNat)

def padded (width : Nat) (bytes : Bytes) : Bytes :=
  bytes ++ List.replicate (width - bytes.length) 0

def octal (digits n : Nat) : Bytes := ascii (String.ofList ((Nat.toDigits 8 n).leftpad digits '0'))

-- a tar of one regular file
def tar_of (name : String) (payload : Bytes) : Bytes :=
  let fields := padded 100 (ascii name) ++ padded 8 (octal 7 0o644) ++ padded 8 (octal 7 0) ++
    padded 8 (octal 7 0) ++ padded 12 (octal 11 payload.length) ++ padded 12 (octal 11 0)
  let checksum := ((fields ++ ascii "        0").map UInt8.toNat).sum
  padded 512 (fields ++ padded 8 (octal 6 checksum) ++ ascii "0") ++
    padded ((payload.length + 511) / 512 * 512) payload ++ List.replicate 1024 0

def alert_xml : Bytes := [
  "<alert xmlns=\"urn:oasis:names:tc:emergency:cap:1.2\">", "<identifier>A</identifier>",
  "<sent>2026-07-02T10:00:00-00:00</sent>", "<msgType>Alert</msgType>",
  "<info><language>es-ES</language>", "<onset>2026-07-02T10:00:00-00:00</onset>",
  "<expires>2026-07-03T10:00:00-00:00</expires>",
  "<parameter><valueName>AEMET-Meteoalerta nivel</valueName>", "<value>amarillo</value></parameter>",
  "<area><polygon>0,0 0,1 1,1 0,0</polygon></area>", "</info></alert>"].flatMap ascii

def alert_url : String := "https://opendata.aemet.es/opendata/sh/a1"

def envelope_json : String :=
  "\x7b\"estado\": 200, \"datos\": \"https://opendata.aemet.es/opendata/sh/a1\"\x7d"

def aemet_urls : UrlLib :=
  { plain_urls with
    urlsplit url := if rstrip_slash url = rstrip_slash alert_url then
      some ⟨"https", some "opendata.aemet.es", some none⟩ else none
    urlsplit_root url parts h _ := ⟨parts, by rw [rstrip_server_root]; exact h, rfl, rfl, rfl⟩ }

def alert_member : TarMember where
  name := "a.xml"
  isfile := true
  size := alert_xml.length
  file := some (.ok alert_xml)
  read_le payload h := by
    obtain rfl : alert_xml = payload := by simpa using h
    exact Nat.le_refl _

def one_event {α ε : Type} (a : α) : Nat → Event α ε
  | 0 => .item a
  | _ + 1 => .stop

def alert_lib : WireLib where
  url := aemet_urls
  text := feed_lib
  loads text := if text = envelope_json then
    .ok (.obj [("estado", .int 200), ("datos", .str alert_url)])
    else .error (.value_error "Expecting value")
  fromstring payload := if payload = alert_xml then .ok (cap_alert square_ring)
    else .error "no element found"
  tar_open data := if data = tar_of "a.xml" alert_xml then .ok (one_event alert_member)
    else .error (.tar_error "file could not be opened successfully")

def alert_settings : HttpSettings := ⟨"key", 52428800⟩

theorem envelope_ne : ascii envelope_json ≠ [] := by decide

theorem tar_ne : tar_of "a.xml" alert_xml ≠ [] :=
  List.append_ne_nil_of_right_ne_nil _ (by decide)

def alert_network : Network := fun sent =>
  match sent.getLast? with
  | none => .http_error ""
  | some request =>
      if request.url = LAST_BULLETIN_URL then .response 200 (one_event ⟨_, envelope_ne⟩)
      else .response 200 (one_event ⟨_, tar_ne⟩)

theorem one_event_whole {bytes : Bytes} (h : bytes ≠ []) : Whole (one_event ⟨bytes, h⟩) bytes :=
  ⟨[⟨bytes, h⟩], ⟨rfl, trivial⟩, rfl, by simp⟩

theorem envelope_ok : EnvelopeOk alert_lib 200 (ascii envelope_json) alert_url where
  answered := by decide
  envelope := by
    have htext : decode_latin_9 (ascii envelope_json) = envelope_json := by decide +kernel
    exact ⟨[("estado", .int 200), ("datos", .str alert_url)], .int 200, by simp [htext, alert_lib],
      rfl, rfl, rfl⟩
  not_empty := by decide
  of_aemet := ⟨⟨"https", some "opendata.aemet.es", some none⟩, by simp [alert_lib, aemet_urls], rfl, rfl⟩

theorem alert_names : Names alert_lib alert_settings alert_network [] alert_url :=
  ⟨200, _, _, rfl, one_event_whole envelope_ne, by decide +kernel, envelope_ok⟩

theorem alert_archive : Archive alert_lib (tar_of "a.xml" alert_xml) [alert_member] where
  opened := ⟨one_event alert_member, by simp [alert_lib], ⟨rfl, trivial⟩, rfl⟩
  count := by decide
  readable member hm _ := by
    obtain rfl := List.mem_singleton.mp hm
    exact ⟨by decide +kernel, by simp [alert_member]⟩

theorem alert_delivers : Delivers alert_lib alert_settings alert_network []
    [alert_warning square_ring] := by
  have hpayload : parse_payload alert_lib alert_xml = .ok (alert_warning square_ring) := by
    simp only [parse_payload, alert_lib, if_true]
    exact square_parsed
  have hwarning : warning_of alert_lib alert_member = some (alert_warning square_ring) :=
    warning_of_some.mpr ⟨alert_xml, payload_of_some.mpr ⟨rfl, rfl⟩, hpayload⟩
  exact ⟨by decide +kernel, alert_url, _, _, _, alert_names, by decide +kernel, rfl,
    one_event_whole tar_ne, by decide +kernel, alert_archive, by simp [hwarning], by simp⟩

-- two upstreams that stream single bytes: one without an end, one that ends past every cap
def byte_chunk : Event Chunk String := .item ⟨[120], by simp⟩

def endless_network : Network := fun _ => .response 200 (fun _ => byte_chunk)

def ending_network : Network := fun _ =>
  .response 200 (fun i => if i ≤ 52428800 then byte_chunk else .stop)

theorem endless_alike (sent : List HttpRequest) (request : HttpRequest) :
    SameReply (cap_of alert_settings request) (endless_network (sent ++ [request]))
      (ending_network (sent ++ [request])) := by
  have hcap : cap_of alert_settings request ≤ 52428800 := by
    unfold cap_of
    split <;> decide
  exact .response 200 (fun i hi => (if_pos (hi.trans hcap)).symm)

theorem aemet_fetch_capped_alert :
    (fetch_warnings alert_lib alert_settings alert_network []).2 = .ok [alert_warning square_ring] ∧
    fetch_warnings alert_lib alert_settings endless_network [] =
      fetch_warnings alert_lib alert_settings ending_network [] :=
  ⟨((aemet_fetch_capped alert_lib alert_settings alert_network []).1 _).mpr alert_delivers,
    (aemet_fetch_capped alert_lib alert_settings endless_network []).2 ending_network
      alert_lib.tar_open endless_alike (fun data => .refl (alert_lib.tar_open data))⟩

end GeoHazard
