import GeoHazard.Notifications.Deliver

namespace GeoHazard

structure SplitUrl where
  scheme : String
  hostname : Option String
  -- none where reading the port raises ValueError
  port : Option (Option Nat)

def rstrip_slash (url : String) : String :=
  String.ofList (url.toList.reverse.dropWhile (· = '/')).reverse

def server_root (server : String) : String := rstrip_slash server ++ "/"

-- urllib, the idna codec and httpx, as far as an address decides what they do
structure UrlLib where
  urlsplit : String → Option SplitUrl
  idna : String → Bool
  invalid_url : String → Bool
  -- slashes at the end are past the scheme, the host and the port
  urlsplit_root : ∀ url parts, urlsplit url = some parts → parts.hostname.getD "" ≠ "" →
    ∃ root, urlsplit (server_root url) = some root ∧ root.scheme = parts.scheme ∧
      root.hostname = parts.hostname ∧ root.port = parts.port
  non_printable : ∀ url, (∃ c ∈ url.toList, c.toNat < 32 ∨ c.toNat = 127) → invalid_url url = true

-- the text of a message, or what its rendering raised
structure Messages where
  render_ntfy : ClaimedSubscription → List Source → Except String String
  render_webhook : ClaimedSubscription → List Source → Nat → Timestamptz → Except String String

structure Address where
  is_global : Bool
  is_multicast : Bool

inductive Resolved where
  | addresses (found : List Address)
  | os_error (class_name : String)

inductive Posted where
  | timeout
  | http_error (class_name : String)
  | response (status_code : Nat)

-- what the world answers to one turn of the send loop
structure Turn where
  expired : Bool
  message_id : Nat
  sent_at : Timestamptz
  resolved : Resolved
  posted : Posted

inductive SendError where
  | channel_error (message : String)
  | value_error
  | unicode_error
  | invalid_url
  | render_error (message : String)

-- what a run raises, in its send phase or in its record transaction
inductive DeliverError where
  | send (e : SendError)
  | record (e : PyError)

namespace HttpChannelSender

variable (lib : UrlLib)

def describe (parts : SplitUrl) : String :=
  parts.scheme ++ "://" ++ (if parts.hostname.getD "" = "" then "?" else parts.hostname.getD "")

def is_public (address : Address) : Bool := address.is_global && !address.is_multicast

def assert_public_https (url : String) (resolved : Resolved) : Except SendError Unit :=
  match lib.urlsplit url with
  | none => .error .value_error
  | some parts =>
      if parts.scheme ≠ "https" ∨ parts.hostname.getD "" = "" then
        .error (.channel_error ("endpoint must be https with a host: " ++ describe parts))
      else
        match parts.port with
        | none => .error .value_error
        | some _ =>
            if lib.idna (parts.hostname.getD "") = false then .error .unicode_error
            else
              match resolved with
              | .os_error class_name =>
                  .error (.channel_error ("cannot resolve " ++ describe parts ++ ": " ++ class_name))
              | .addresses [] => .error (.channel_error ("cannot resolve " ++ describe parts))
              | .addresses found =>
                  if found.all is_public then .ok ()
                  else .error (.channel_error (describe parts ++ " resolves to a non-public address"))

def check_endpoint (url : String) (resolved : Resolved) : Except SendError Unit :=
  assert_public_https lib url resolved

def is_success (status_code : Nat) : Bool := 200 ≤ status_code && status_code ≤ 299

def post (url : String) (turn : Turn) : Except SendError Unit := do
  assert_public_https lib url turn.resolved
  let target := ((lib.urlsplit url).map describe).getD ""
  if lib.invalid_url url then .error .invalid_url
  else
    match turn.posted with
    | .timeout => .error (.channel_error ("timeout sending to " ++ target))
    | .http_error class_name => .error (.channel_error (class_name ++ " sending to " ++ target))
    | .response status_code =>
        if is_success status_code then .ok ()
        else .error (.channel_error (target ++ " answered " ++ toString status_code))

def send_ntfy (server : String) (turn : Turn) : Except SendError Unit :=
  post lib (server_root server) turn

def send_webhook (url : String) (turn : Turn) : Except SendError Unit := post lib url turn

end HttpChannelSender

namespace DeliverNotificationsUseCase

variable (lib : UrlLib) (messages : Messages)

def rendered (text : Except String String) : Except SendError String := text.mapError .render_error

def send (claim : ClaimedSubscription) (degraded : List Source) (turn : Turn) :
    Except SendError Unit :=
  match claim.channel with
  | .ntfy => do
      let _ ← rendered (messages.render_ntfy claim degraded)
      HttpChannelSender.send_ntfy lib claim.endpoint turn
  | .webhook => do
      let _ ← rendered (messages.render_webhook claim degraded turn.message_id turn.sent_at)
      HttpChannelSender.send_webhook lib claim.endpoint turn

def send_all (degraded : List Source) (world : Nat → Turn) :
    Nat → List ClaimedSubscription → Except SendError (List Outcome)
  | _, [] => .ok []
  | i, claim :: claims =>
      if i ≠ 0 ∧ (world i).expired = true then do
        let outcomes ← send_all degraded world (i + 1) claims
        .ok (⟨claim, none, none, true⟩ :: outcomes)
      else
        match send lib messages claim degraded (world i) with
        | .error (.channel_error message) => do
            let outcomes ← send_all degraded world (i + 1) claims
            .ok (⟨claim, none, some message, false⟩ :: outcomes)
        | .error e => .error e
        | .ok _ => do
            let outcomes ← send_all degraded world (i + 1) claims
            .ok (⟨claim, some (world i).message_id, none, false⟩ :: outcomes)

def deliver {G : Type} (gis : Gis G) (settings : DeliverSettings) (degraded : List Source)
    (world : Nat → Turn) (claims : List ClaimedSubscription) (now : Timestamptz)
    (db : NotificationsDb G) : Except DeliverError (NotificationsDb G × DeliveryReport) := do
  let outcomes ← (send_all lib messages degraded world 0 claims).mapError .send
  (finish gis settings now outcomes db).mapError .record

end DeliverNotificationsUseCase

end GeoHazard
