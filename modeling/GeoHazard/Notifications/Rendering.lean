import GeoHazard.Core.Attribution
import GeoHazard.Core.Datetime
import GeoHazard.Library.Utf8Cut
import GeoHazard.Notifications.HttpChannel
import Mathlib.Data.List.Dedup

namespace GeoHazard

inductive RenderError where
  | type_error | value_error | overflow_error | attribute_error | key_error
  deriving DecidableEq

inductive Zone where
  | peninsula | canarias

-- a datetime in its zone; weekday and month count from zero
structure LocalTime where
  weekday : Fin 7
  day : Nat
  month : Fin 12
  hour : Nat
  minute : Nat

-- what the texts use of ==, str, float and datetime, and of the tz database: astimezone is the
-- fromisoformat of a text moved to a zone
structure PyText where
  eq : PyJson → PyJson → Bool
  str : PyJson → String
  lower : String → String
  float : PyJson → Except RenderError PyFloat
  fixed : Nat → PyFloat → String
  astimezone : Zone → String → Except RenderError LocalTime

def dict_get_or (name : String) (default_ : PyJson) : PyJson → Except RenderError PyJson
  | .obj kvs => .ok ((Dict.get name kvs).getD default_)
  | _ => .error .attribute_error

def dict_get (name : String) (v : PyJson) : Except RenderError PyJson := dict_get_or name .null v

def or_empty (v : PyJson) : PyJson := if truthy_json v then v else .obj []

def is_text (s : String) : PyJson → Bool
  | .str t => t == s
  | _ => false

def join (sep : String) : List String → String
  | [] => ""
  | [text] => text
  | text :: next :: texts => text ++ sep ++ join sep (next :: texts)

def pad_two (n : Nat) : String := String.ofList (Decimal.pad 2 n)

-- str.capitalize on an ASCII text
def capitalize (s : String) : String :=
  match s.toList with
  | [] => ""
  | c :: cs => String.ofList (c.toUpper :: cs.map Char.toLower)

def PyText.text (lib : PyText) : PyJson → String
  | .str s => s
  | v => lib.str v

namespace Texts

variable (lib : PyText)

def NOTICE : String :=
  "No es un aviso oficial. Consulta AEMET y, ante una emergencia, llama al 112 " ++
    "(los avisos oficiales llegan por ES-Alert)."

def SOURCE_NAMES : List (String × String) := [("aemet", "AEMET"), ("ign", "IGN"), ("effis", "EFFIS")]

-- -13.0
def CANARIAS_MAX_LON : PyFloat := ⟨0xc02a000000000000⟩

def WEEKDAYS : Fin 7 → String
  | 0 => "lun" | 1 => "mar" | 2 => "mie" | 3 => "jue" | 4 => "vie" | 5 => "sab" | 6 => "dom"

def MONTHS : Fin 12 → String
  | 0 => "ene" | 1 => "feb" | 2 => "mar" | 3 => "abr" | 4 => "may" | 5 => "jun"
  | 6 => "jul" | 7 => "ago" | 8 => "sep" | 9 => "oct" | 10 => "nov" | 11 => "dic"

def first_lon : PyJson → Except RenderError (Option PyFloat)
  | .arr (.bool b :: _) => .ok (PyFloat.of_int (if b then 1 else 0))
  | .arr (.int n :: _) =>
      match PyFloat.of_int n with
      | none => .error .overflow_error
      | some x => .ok (some x)
  | .arr (.float x :: _) => .ok (some x.val)
  | .arr (first :: _) => first_lon first
  | _ => .ok none

def zone_for (feature : PyJson) : Except RenderError Zone := do
  let geometry ← dict_get "geometry" feature
  let coordinates ← dict_get "coordinates" (or_empty geometry)
  let lon ← first_lon coordinates
  .ok (if lon.any (fun x => x.lt CANARIAS_MAX_LON) then .canarias else .peninsula)

def when_ (raw : PyJson) (zone : Zone) : Except RenderError String :=
  if !truthy_json raw then .ok "?"
  else
    match raw with
    | .str text => do
        let moment ← lib.astimezone zone text
        .ok (WEEKDAYS moment.weekday ++ " " ++ toString moment.day ++ " " ++ MONTHS moment.month ++
          " " ++ pad_two moment.hour ++ ":" ++ pad_two moment.minute)
    | _ => .error .type_error

def after_semicolon (raw : String) : String :=
  if raw.toList.contains ';' then (partition ';' raw).2 else raw

def phenomenon_name (raw : PyJson) : Except RenderError String :=
  if !truthy_json raw then .ok "fenomeno desconocido"
  else
    match raw with
    | .str text =>
        let name := lib.lower (strip (after_semicolon text))
        .ok (if name = "" then text else name)
    | _ => .error .attribute_error

def degraded_note (sources : List String) : String :=
  "Ojo: sin datos recientes de " ++
    join ", " (sources.map (fun s => (Dict.get s SOURCE_NAMES).getD s)) ++
    "; puede haber avisos que no han llegado."

def and_more (count : Nat) : String := "y " ++ toString count ++ " mas"

end Texts

def sorted (texts : List String) : List String := texts.insertionSort (· ≤ ·)

structure NtfyMessage where
  title : String
  body : String
  priority : Nat
  tags : List String
  click : Option String

structure WebhookArea where
  id : Nat
  label : String

structure WebhookItem where
  delivery_id : Nat
  episode_id : Nat
  reason : Reason
  severity : Nat
  event_count : Nat
  features : List PyJson

structure WebhookEnvelope where
  version : Nat
  message_id : Nat
  subscription_id : Nat
  sent_at : Timestamptz
  area : WebhookArea
  items : List WebhookItem
  notice : String
  attribution : List SourceAttribution
  degraded_sources : List String

namespace Rendering

variable (lib : PyText)

def SOURCE_BY_HAZARD : List (String × String) :=
  [("weather_warning", "aemet"), ("earthquake", "ign"), ("wildfire", "effis")]

def NTFY_PRIORITY : List (Nat × Nat) := [(1, 2), (2, 3), (3, 4), (4, 5)]

def NTFY_TAGS : List (String × String) :=
  [("weather_warning", "warning"), ("earthquake", "globe_with_meridians"), ("wildfire", "fire")]

def MAX_ZONES_IN_LINE : Nat := 3

def relevant_degraded (hazard_types : List HazardType) (degraded : List String) : List String :=
  let wanted := hazard_types.filterMap (fun h => Dict.get h.name SOURCE_BY_HAZARD)
  sorted (degraded.filter (fun s => decide (s ∈ wanted)))

def props (feature : PyJson) : Except RenderError PyJson := do
  let properties ← dict_get "properties" feature
  .ok (or_empty properties)

def number (value : PyJson) : Except RenderError (Option PyFloat) :=
  match lib.float value with
  | .ok x => .ok (some x)
  | .error .type_error => .ok none
  | .error .value_error => .ok none
  | .error e => .error e

def text_or (default_ : String) (v : PyJson) : String :=
  if truthy_json v then lib.text v else default_

def text? : PyJson → Option String
  | .str s => some s
  | _ => none

def zones : List PyJson → List PyJson → Except RenderError (List PyJson)
  | [], seen => .ok seen
  | item :: items, seen => do
      let p ← props item
      let attrs ← dict_get "attrs" p
      let name ← dict_get "area_desc" (or_empty attrs)
      zones items (if truthy_json name && !seen.any (lib.eq name) then seen ++ [name] else seen)

def join_names (sep : String) (names : List PyJson) : Except RenderError String :=
  if (names.filterMap text?).length = names.length then .ok (join sep (names.filterMap text?))
  else .error .type_error

def describe (delivery : PendingDelivery) : Except RenderError (String × String) := do
  let first := delivery.items.head?.getD (.obj [])
  let p ← props first
  let attrs ← dict_get "attrs" p
  let attrs := or_empty attrs
  let zone ← Texts.zone_for first
  let escalated := delivery.reason == .escalated
  let hazard ← dict_get "hazard_type" p
  let starts_at ← dict_get "starts_at" p
  if is_text "weather_warning" hazard then do
    let level ← dict_get "level" attrs
    let level := text_or lib "?" level
    let phenomenon ← dict_get "phenomenon" attrs
    let phenomenon ← Texts.phenomenon_name lib phenomenon
    let headline := if escalated then "Sube a " ++ level ++ " el aviso por " ++ phenomenon
      else "Aviso " ++ level ++ " por " ++ phenomenon
    let zones ← zones lib delivery.items []
    let shown := zones.take MAX_ZONES_IN_LINE
    let hidden := max delivery.item_count zones.length - shown.length
    let names ← join_names ", " shown
    let where_ := if names = "" then "zona sin nombre" else names
    let where_ := if 0 < hidden then where_ ++ " " ++ Texts.and_more hidden else where_
    let ends_at ← dict_get "ends_at" p
    let start ← Texts.when_ lib starts_at zone
    let stop ← Texts.when_ lib ends_at zone
    .ok (headline, headline ++ ": " ++ where_ ++ ", de " ++ start ++ " a " ++ stop ++ ".")
  else if is_text "earthquake" hazard then do
    let magnitude ← dict_get "magnitude" attrs
    let magnitude ← number lib magnitude
    let size := match magnitude with
      | some x => "magnitud " ++ lib.fixed 1 x
      | none => "magnitud ?"
    let headline := if escalated then "Revisado al alza: terremoto de " ++ size
      else "Terremoto de " ++ size
    let region ← dict_get "region" attrs
    let start ← Texts.when_ lib starts_at zone
    .ok (headline, headline ++ " en " ++ text_or lib "region desconocida" region ++ ", " ++ start ++ ".")
  else do
    let area_ha ← dict_get "area_ha" attrs
    let area_ha ← number lib area_ha
    let extent := match area_ha with
      | some x => lib.fixed 0 x ++ " ha"
      | none => "extension desconocida"
    let headline := if escalated then "Crece el incendio: " ++ extent else "Incendio de " ++ extent
    let start ← Texts.when_ lib starts_at zone
    .ok (headline, headline ++ ", detectado " ++ start ++ ".")

def of_items (name : String) (default_ : PyJson) (deliveries : List PendingDelivery) :
    Except RenderError (List PyJson) :=
  (deliveries.flatMap PendingDelivery.items).mapM (fun item => do
    let p ← props item
    dict_get_or name default_ p)

def is_number : PyJson → Bool
  | .bool _ => true
  | .int _ => true
  | .float _ => true
  | _ => false

def is_null : PyJson → Bool
  | .null => true
  | _ => false

def unhashable : PyJson → Bool
  | .arr _ => true
  | .obj _ => true
  | _ => false

-- texts sort with texts and numbers with numbers; what is no text has no attribution
def sources (subscription : ClaimedSubscription) : Except RenderError (List String) := do
  let values ← of_items "source" (.str "") subscription.deliveries
  let named := values.filter (fun v => !is_text "" v)
  let texts := named.filterMap text?
  if values.any unhashable then .error .type_error
  else if texts.length = named.length ∨ named.all is_number ∨ named.all is_null then
    .ok (sorted texts.dedup)
  else .error .type_error

def body_lines (deliveries : List PendingDelivery) (max_items : Nat) :
    Except RenderError (List String) := do
  let shown := deliveries.take max_items
  let described ← shown.mapM (describe lib)
  let lines := described.map Prod.snd
  .ok (if shown.length < deliveries.length then
    lines ++ [capitalize (Texts.and_more (deliveries.length - shown.length)) ++ " avisos."] else lines)

def footer_lines (sources relevant : List String) : List String :=
  ([Texts.NOTICE, join " | " ((attributions_for sources).map SourceAttribution.text)] ++
    (if relevant = [] then [] else [Texts.degraded_note relevant])).filter (fun line => line ≠ "")

def tag_of : PyJson → Except RenderError (Option String)
  | .str s => .ok (Dict.get s NTFY_TAGS)
  | .arr _ => .error .type_error
  | .obj _ => .error .type_error
  | _ => .ok none

def title_of (subscription : ClaimedSubscription) : Except RenderError String :=
  match subscription.deliveries with
  | [d] => do
      let headline ← describe lib d
      .ok (headline.1 ++ " - " ++ subscription.area_label)
  | deliveries => .ok (toString deliveries.length ++ " avisos en " ++ subscription.area_label)

def click_of (deliveries : List PendingDelivery) (base_url : String) :
    Except RenderError (Option String) :=
  match deliveries with
  | [d] =>
      match d.items with
      | item :: _ =>
          if d.item_count = 1 then do
            let id ← dict_get "id" item
            .ok (some (rstrip_slash base_url ++ "/e/" ++ lib.text id))
          else .ok none
      | [] => .ok none
  | _ => .ok none

def priority_of (deliveries : List PendingDelivery) : Except RenderError Nat :=
  match (deliveries.map PendingDelivery.severity).max? with
  | none => .error .value_error
  | some severity =>
      match Dict.get severity NTFY_PRIORITY with
      | none => .error .key_error
      | some priority => .ok priority

def render_ntfy (subscription : ClaimedSubscription) (degraded : List String) (base_url : String)
    (max_items : Nat) : Except RenderError NtfyMessage := do
  let lines ← body_lines lib subscription.deliveries max_items
  let title ← title_of lib subscription
  let sources ← sources subscription
  let footer := footer_lines sources (relevant_degraded subscription.hazard_types degraded)
  let click ← click_of lib subscription.deliveries base_url
  let hazards ← of_items "hazard_type" .null subscription.deliveries
  let tags ← hazards.mapM tag_of
  let priority ← priority_of subscription.deliveries
  .ok {
    title := title
    body := join "\n" lines ++ "\n\n" ++ join "\n" footer
    priority := priority
    tags := sorted (tags.filterMap id).dedup
    click := click }

def is_dict : PyJson → Bool
  | .obj _ => true
  | _ => false

-- pydantic takes dicts only as the features of an item
def webhook_item (d : PendingDelivery) : Except RenderError WebhookItem :=
  if d.items.all is_dict then .ok ⟨d.id, d.episode_id, d.reason, d.severity, d.item_count, d.items⟩
  else .error .value_error

def render_webhook (subscription : ClaimedSubscription) (degraded : List String) (message_id : Nat)
    (sent_at : Timestamptz) : Except RenderError WebhookEnvelope := do
  let items ← subscription.deliveries.mapM webhook_item
  let sources ← sources subscription
  .ok {
    version := 1
    message_id := message_id
    subscription_id := subscription.id
    sent_at := sent_at
    area := ⟨subscription.area_id, subscription.area_label⟩
    items := items
    notice := Texts.NOTICE
    attribution := attributions_for sources
    degraded_sources := relevant_degraded subscription.hazard_types degraded }

end Rendering

namespace HttpChannelSender

def NTFY_MAX_BODY_BYTES : Nat := 4096

def decode (bytes : List UInt8) : String :=
  String.ofList (Utf8Cut.decode_ignore bytes.length bytes)

def cap_utf8 (text : String) (max_bytes : Nat) : String :=
  let encoded := Utf8Cut.encode text.toList
  if encoded.length ≤ max_bytes then text else decode (encoded.take max_bytes)

structure NtfyPayload where
  topic : String
  title : String
  message : String
  priority : Nat
  tags : List String
  click : Option String

def ntfy_payload (topic : String) (message : NtfyMessage) : NtfyPayload where
  topic := topic
  title := message.title
  message := cap_utf8 message.body NTFY_MAX_BODY_BYTES
  priority := message.priority
  tags := message.tags
  click := message.click.filter (fun click => click ≠ "")

end HttpChannelSender

namespace DeliverNotificationsUseCase

def raised : RenderError → String
  | .type_error => "TypeError"
  | .value_error => "ValueError"
  | .overflow_error => "OverflowError"
  | .attribute_error => "AttributeError"
  | .key_error => "KeyError"

-- the two texts that are sent, with the settings of the messages
def messages (lib : PyText) (model_dump_json : WebhookEnvelope → String) (base_url : String)
    (max_items : Nat) : Messages where
  render_ntfy claim degraded :=
    ((Rendering.render_ntfy lib claim (degraded.map Source.name) base_url max_items).map
      (fun message => (HttpChannelSender.ntfy_payload claim.credential message).message)).mapError
        raised
  render_webhook claim degraded message_id sent_at :=
    ((Rendering.render_webhook claim (degraded.map Source.name) message_id sent_at).map
      model_dump_json).mapError raised

end DeliverNotificationsUseCase

end GeoHazard
