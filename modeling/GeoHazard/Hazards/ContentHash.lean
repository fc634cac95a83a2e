import GeoHazard.Hazards.UpsertContent
import GeoHazard.Library.JsonOrder

namespace GeoHazard

open HazardEventRepo

variable {G : Type} {env : Env G}

structure Payload where
  value : PyJson
  keyed : value.Keyed

theorem content_hash_reordered (hsha : Function.Injective env.sha256) (p q : Payload) :
    content_hash env p.value = content_hash env q.value ↔ p.value.Reordered q.value := by
  rw [content_hash_eq_iff hsha, Json.canon_eq_iff p.keyed]

theorem upsert_row_current_iff {tx : Tx} {row : Row G} {t : Rows G} {e : HazardEvent G}
    (h : Table.find HazardEvent.key row.key t = some e) (hx : e.ends_at = row.ends_at) :
    upsert_row env tx row t = (t, []) ↔ e.content_hash = row.content_hash := by
  constructor
  · intro hup
    by_contra hne
    have hstale : ¬ Current row t := by
      rintro ⟨e', he', hh, _⟩
      rw [h, Option.some.injEq] at he'
      exact hne (he' ▸ hh)
    rw [upsert_row_changed h hstale, Prod.mk.injEq] at hup
    exact List.cons_ne_nil _ _ hup.2
  · intro hh
    exact upsert_row_current ⟨e, h, hh, hx⟩

theorem canonical_form (hsha : Function.Injective env.sha256) (p q : Payload) :
    (Json.dumps env.float_text p.value = Json.dumps env.float_text q.value ↔
      p.value.Reordered q.value) ∧
    (content_hash env p.value = content_hash env q.value ↔ p.value.Reordered q.value) ∧
    ∀ (tx : Tx) (row : Row G) (t : Rows G) (e : HazardEvent G),
      Table.find HazardEvent.key row.key t = some e → e.ends_at = row.ends_at →
      e.content_hash = content_hash env p.value → row.content_hash = content_hash env q.value →
      (upsert_row env tx row t = (t, []) ↔ p.value.Reordered q.value) := by
  refine ⟨?_, content_hash_reordered hsha p q, fun tx row t e he hx hp hq => ?_⟩
  · rw [Json.dumps_eq_iff, Json.canon_eq_iff p.keyed]
  · rw [upsert_row_current_iff he hx, hp, hq]
    exact content_hash_reordered hsha p q

def payload : Payload where
  value := .obj [("a", .int 1), ("b", .arr [.int 2, .int 3])]
  keyed := by simp [Json.Keyed, Json.KeyedFields, Json.KeyedList, Dict.keys]

def turned : Payload where
  value := .obj [("b", .arr [.int 2, .int 3]), ("a", .int 1)]
  keyed := by simp [Json.Keyed, Json.KeyedFields, Json.KeyedList, Dict.keys]

def payload_text : String := "\x7b\"a\":1,\"b\":[2,3]\x7d"

def payload_digest : String := "efbd0040190fb0871831e606c581f8a66db79d8e2bb836745a70051306956070"

def payload_env : Env (List (PyFloat × PyFloat)) :=
  planar_env (Equiv.swap payload_text payload_digest)

def payload_row (p : Payload) : Row (List (PyFloat × PyFloat)) :=
  { alert_row with content_hash := content_hash payload_env p.value }

theorem payload_turned : payload.value.Reordered turned.value :=
  Json.reordered_of_canon _ _ rfl

def payload_stored : HazardEvent (List (PyFloat × PyFloat)) :=
  HazardEvent.inserted payload_env (ran_at 1 (july 2 11)) (payload_row payload) 0

theorem canonical_form_turned :
    Json.dumps payload_env.float_text payload.value = Json.dumps payload_env.float_text turned.value ∧
    content_hash payload_env payload.value = content_hash payload_env turned.value ∧
    upsert_row payload_env (ran_at 2 (july 2 12)) (payload_row turned) [payload_stored] =
      ([payload_stored], []) := by
  obtain ⟨htext, hhash, hupsert⟩ :=
    @canonical_form _ payload_env (Equiv.injective _) payload turned
  refine ⟨htext.mpr payload_turned, hhash.mpr payload_turned, ?_⟩
  exact (hupsert _ (payload_row turned) [payload_stored] payload_stored rfl rfl rfl rfl).mpr
    payload_turned

end GeoHazard
