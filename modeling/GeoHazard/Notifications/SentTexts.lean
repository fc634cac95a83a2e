import GeoHazard.Notifications.DeliverOutcomes
import GeoHazard.Notifications.NtfyFooter

namespace GeoHazard
open Rendering HttpChannelSender DeliverNotificationsUseCase Utf8Cut

variable {url : UrlLib} {lib : PyText} {model_dump_json : WebhookEnvelope → String}
  {base_url : String} {max_items : Nat} {claim : ClaimedSubscription} {degraded : List Source}
  {world : Nat → Turn} {turn : Turn}

theorem rendered_ok {α : Type} {x : Except RenderError α} {f : α → String} {text : String} :
    (x.map f).mapError raised = .ok text ↔ ∃ a, x = .ok a ∧ f a = text := by
  cases x <;> simp [Except.map, Except.mapError]

theorem render_ntfy_parts {names : List String} {m : NtfyMessage}
    (h : render_ntfy lib claim names base_url max_items = .ok m) :
    ∃ lines sources, body_lines lib claim.deliveries max_items = .ok lines ∧
      Rendering.sources claim = .ok sources := by
  obtain ⟨lines, hlines, h⟩ := bind_ok.mp h
  obtain ⟨_, -, h⟩ := bind_ok.mp h
  obtain ⟨sources, hsources, -⟩ := bind_ok.mp h
  exact ⟨lines, sources, hlines, hsources⟩

-- the text that ntfy shows is that of the lines and of the footer, cut where it is too long
def Shows (lib : PyText) (max_items : Nat) (claim : ClaimedSubscription) (degraded : List Source)
    (text : String) : Prop :=
  ∃ lines sources, body_lines lib claim.deliveries max_items = .ok lines ∧
    Rendering.sources claim = .ok sources ∧
    text.toList = fit 4096 (heading lines ++
      footer_text sources (relevant_degraded claim.hazard_types (degraded.map Source.name)))

structure Envelops (claim : ClaimedSubscription) (degraded : List Source) (turn : Turn)
    (envelope : WebhookEnvelope) : Prop where
  message_id : envelope.message_id = turn.message_id
  deliveries : envelope.items.map WebhookItem.delivery_id = claim.delivery_ids
  features : envelope.items.map WebhookItem.features = claim.deliveries.map PendingDelivery.items
  notice : envelope.notice = Texts.NOTICE
  attribution : ∀ source a, Present claim source → Dict.get source ATTRIBUTIONS = some a →
    a ∈ envelope.attribution
  degraded_sources : envelope.degraded_sources =
    relevant_degraded claim.hazard_types (degraded.map Source.name)

theorem webhook_items {deliveries : List PendingDelivery} {items : List WebhookItem}
    (h : deliveries.mapM webhook_item = .ok items) :
    items.map WebhookItem.delivery_id = deliveries.map PendingDelivery.id ∧
      items.map WebhookItem.features = deliveries.map PendingDelivery.items := by
  induction deliveries generalizing items with
  | nil =>
      obtain rfl := Except.ok.inj h
      exact ⟨rfl, rfl⟩
  | cons d deliveries ih =>
      rw [List.mapM_cons] at h
      obtain ⟨item, hitem, h⟩ := bind_ok.mp h
      obtain ⟨rest, hrest, h⟩ := bind_ok.mp h
      obtain rfl := Except.ok.inj h
      obtain ⟨hids, hfeatures⟩ := ih hrest
      rw [webhook_item] at hitem
      split at hitem
      · obtain rfl := Except.ok.inj hitem
        simp [hids, hfeatures]
      · cases hitem

theorem render_webhook_envelops {envelope : WebhookEnvelope}
    (h : render_webhook claim (degraded.map Source.name) turn.message_id turn.sent_at =
      .ok envelope) : Envelops claim degraded turn envelope := by
  obtain ⟨items, hitems, h⟩ := bind_ok.mp h
  obtain ⟨sources, hsources, h⟩ := bind_ok.mp h
  obtain rfl := Except.ok.inj h
  obtain ⟨hids, hfeatures⟩ := webhook_items hitems
  refine ⟨rfl, hids, hfeatures, rfl, fun source a hpresent hknown => ?_, rfl⟩
  have hne : source ≠ "" := by
    rintro rfl
    cases hknown
  refine List.mem_filterMap.mpr ⟨source, ?_, hknown⟩
  exact (List.mem_insertionSort _).mpr
    (List.mem_dedup.mpr ((mem_sources hsources).mpr ⟨hne, hpresent⟩))

theorem accepted_ntfy (hc : claim.channel = .ntfy)
    (h : Accepted url (messages lib model_dump_json base_url max_items) degraded claim turn) :
    ∃ text, message (messages lib model_dump_json base_url max_items) claim degraded turn =
      .ok text ∧ Shows lib max_items claim degraded text := by
  obtain ⟨⟨text, htext⟩, -⟩ := h
  refine ⟨text, htext, ?_⟩
  simp only [message, hc] at htext
  obtain ⟨m, hm, rfl⟩ := rendered_ok.mp htext
  obtain ⟨lines, sources, hlines, hsources⟩ := render_ntfy_parts hm
  exact ⟨lines, sources, hlines, hsources, posted_toList claim.credential hm hlines hsources⟩

theorem accepted_webhook (hc : claim.channel = .webhook)
    (h : Accepted url (messages lib model_dump_json base_url max_items) degraded claim turn) :
    ∃ envelope, message (messages lib model_dump_json base_url max_items) claim degraded turn =
      .ok (model_dump_json envelope) ∧ Envelops claim degraded turn envelope := by
  obtain ⟨⟨text, htext⟩, -⟩ := h
  have hrendered := htext
  simp only [message, hc] at hrendered
  obtain ⟨envelope, henvelope, rfl⟩ := rendered_ok.mp hrendered
  exact ⟨envelope, htext, render_webhook_envelops henvelope⟩

theorem sent_accepted {i : Nat} {claims : List ClaimedSubscription} {outcomes : List Outcome}
    {texts : Messages} (h : send_all url texts degraded world i claims = .ok outcomes) :
    ∀ o ∈ outcomes, o.sent → ∃ j, Accepted url texts degraded o.claim (world j) := by
  induction claims generalizing i outcomes with
  | nil =>
      obtain rfl := Except.ok.inj h
      simp
  | cons claim claims ih =>
      obtain ⟨o, rest, ho, hrest, rfl⟩ := send_all_cons.mp h
      intro o' ho' hsent
      rcases List.mem_cons.mp ho' with rfl | ho'
      · cases ho with
        | skipped => simp [Outcome.sent] at hsent
        | sent _ hs => exact ⟨i, send_ok_iff.mp hs⟩
        | failed => simp [Outcome.sent] at hsent
      · exact ih hrest o' ho' hsent

-- every message that a run has sent: a webhook has the whole envelope, an ntfy text may be cut
theorem sent_texts {claims : List ClaimedSubscription} {outcomes : List Outcome}
    (h : send_all url (messages lib model_dump_json base_url max_items) degraded world 0 claims =
      .ok outcomes) {o : Outcome} (ho : o ∈ outcomes) (hsent : o.sent) :
    ∃ j text, message (messages lib model_dump_json base_url max_items) o.claim degraded (world j) =
        .ok text ∧
      ((o.claim.channel = .ntfy ∧ Shows lib max_items o.claim degraded text) ∨
        (o.claim.channel = .webhook ∧ ∃ envelope, text = model_dump_json envelope ∧
          Envelops o.claim degraded (world j) envelope)) := by
  obtain ⟨j, haccepted⟩ := sent_accepted h o ho hsent
  cases hc : o.claim.channel with
  | ntfy =>
      obtain ⟨text, htext, hshows⟩ := accepted_ntfy hc haccepted
      exact ⟨j, text, htext, .inl ⟨rfl, hshows⟩⟩
  | webhook =>
      obtain ⟨envelope, htext, henvelops⟩ := accepted_webhook hc haccepted
      exact ⟨j, _, htext, .inr ⟨rfl, envelope, rfl, henvelops⟩⟩

end GeoHazard
