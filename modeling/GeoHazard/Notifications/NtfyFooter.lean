import GeoHazard.Notifications.Rendering

namespace GeoHazard
open Rendering HttpChannelSender Utf8Cut

variable {lib : PyText} {claim : ClaimedSubscription} {degraded : List String}
  {base_url topic : String} {max_items : Nat} {message : NtfyMessage}

-- an item of the deliveries is from the source
def Present (claim : ClaimedSubscription) (source : String) : Prop :=
  ∃ d ∈ claim.deliveries, ∃ item ∈ d.items, ∃ p, props item = .ok p ∧
    dict_get_or "source" (.str "") p = .ok (.str source)

-- the texts that a message has to carry
inductive Required (claim : ClaimedSubscription) (degraded : List String) : String → Prop
  | notice : Required claim degraded Texts.NOTICE
  | attribution {source : String} {a : SourceAttribution} (present : Present claim source)
      (known : Dict.get source ATTRIBUTIONS = some a) : Required claim degraded a.text
  | note (some_degraded : relevant_degraded claim.hazard_types degraded ≠ []) :
      Required claim degraded
        (Texts.degraded_note (relevant_degraded claim.hazard_types degraded))

structure NtfyOk (claim : ClaimedSubscription) (degraded : List String) (text : String) : Prop where
  bytes : text.utf8ByteSize ≤ 4096
  valid : text.toByteArray.IsValidUTF8
  texts : ∀ r, Required claim degraded r → r.toList <:+: text.toList

-- the lines of the deliveries and the blank line below them
def heading (lines : List String) : List Char := (join "\n" lines).toList ++ ['\n', '\n']

def footer_text (sources relevant : List String) : List Char :=
  (join "\n" (footer_lines sources relevant)).toList

def FitsNtfy (lines sources relevant : List String) : Prop :=
  size (heading lines) + size (footer_text sources relevant) ≤ 4096

-- the footer shows r within the bytes that are kept
def Reached (lines sources relevant : List String) (r : String) : Prop :=
  ∃ p, p ++ r.toList <+: footer_text sources relevant ∧ size (heading lines ++ p ++ r.toList) ≤ 4096

-- what is kept of the lines has r in it
def Quoted (lines : List String) (r : String) : Prop := r.toList <:+: fit 4096 (heading lines)

section Join

variable {sep : String} {c : Char}

theorem infix_join {text : String} {texts : List String} (h : text ∈ texts) :
    text.toList <:+: (join sep texts).toList := by
  induction texts with
  | nil => simp at h
  | cons first texts ih =>
      cases texts with
      | nil =>
          rw [List.mem_singleton.mp h]
          exact List.infix_refl _
      | cons next texts =>
          simp only [join, String.toList_append]
          rcases List.mem_cons.mp h with rfl | h
          · exact (List.prefix_append _ _).isInfix.trans (List.prefix_append _ _).isInfix
          · exact (ih h).trans (List.suffix_append _ _).isInfix

theorem not_mem_literal {cs : List Char} (h : c ∉ cs) : c ∉ (String.ofList cs).toList := by
  rwa [String.toList_ofList]

theorem mem_literal {cs : List Char} (h : c ∈ cs) : c ∈ (String.ofList cs).toList := by
  rwa [String.toList_ofList]

theorem not_mem_append {s t : String} (hs : c ∉ s.toList) (ht : c ∉ t.toList) :
    c ∉ (s ++ t).toList := by
  rw [String.toList_append, List.mem_append, not_or]
  exact ⟨hs, ht⟩

theorem infix_append {r : List Char} {s t : String} (h : r <:+: s.toList) :
    r <:+: (s ++ t).toList := by
  rw [String.toList_append]
  exact h.trans (List.prefix_append _ _).isInfix

theorem not_mem_join {texts : List String} (hsep : c ∉ sep.toList)
    (h : ∀ text ∈ texts, c ∉ text.toList) : c ∉ (join sep texts).toList := by
  induction texts with
  | nil => simp [join]
  | cons first texts ih =>
      cases texts with
      | nil => exact h first (by simp)
      | cons next texts =>
          have hrest := ih (fun text ht => h text (List.mem_cons_of_mem _ ht))
          exact not_mem_append (not_mem_append (h first (by simp)) hsep) hrest

end Join

theorem prefix_before {α : Type} {x : α} {r after : List α} (before : List α) (hx : x ∉ r)
    (h : r <+: before ++ x :: after) : r <+: before := by
  rcases List.prefix_or_prefix_of_prefix h (List.prefix_append before (x :: after)) with hp | hp
  · exact hp
  · obtain ⟨rest, rfl⟩ := hp
    cases rest with
    | nil => exact ⟨[], by simp⟩
    | cons y rest =>
        have htail := (List.prefix_append_right_inj before).mp h
        obtain ⟨rfl, -⟩ := List.cons_prefix_cons.mp htail
        exact absurd (by simp) hx

theorem infix_beside {α : Type} {x : α} {r after : List α} (before : List α) (hx : x ∉ r)
    (h : r <:+: before ++ x :: after) : r <:+: before ∨ r <:+: after := by
  induction before with
  | nil =>
      rcases List.infix_cons_iff.mp h with hp | hi
      · exact .inl (prefix_before [] hx hp).isInfix
      · exact .inr hi
  | cons b before ih =>
      rcases List.infix_cons_iff.mp h with hp | hi
      · exact .inl (prefix_before (b :: before) hx hp).isInfix
      · rcases ih hi with hi | hi
        · exact .inl (hi.trans (List.suffix_cons b before).isInfix)
        · exact .inr hi

theorem infix_cut {r lines footer : List Char} {n : Nat} (hr : '\n' ∉ r) :
    r <:+: fit n (lines ++ ['\n', '\n'] ++ footer) ↔
      (∃ p, p ++ r <+: footer ∧ size (lines ++ ['\n', '\n'] ++ p ++ r) ≤ n) ∨
        r <:+: fit n (lines ++ ['\n', '\n']) := by
  rw [fit_append]
  split
  · next hlines =>
      rw [fit_eq_self hlines]
      constructor
      · intro h
        rw [List.append_assoc] at h
        rcases infix_beside lines hr h with hi | hi
        · exact .inr (hi.trans (List.prefix_append _ _).isInfix)
        · rcases infix_beside [] hr hi with hi | hi
          · exact .inr (hi.trans List.nil_infix)
          · obtain ⟨p, hp, hsize⟩ := infix_fit.mp hi
            refine .inl ⟨p, hp, ?_⟩
            rw [List.append_assoc _ p r, size_append]
            omega
      · rintro (⟨p, hp, hsize⟩ | hi)
        · rw [List.append_assoc _ p r, size_append] at hsize
          exact (infix_fit.mpr ⟨p, hp, by omega⟩).trans (List.suffix_append _ _).isInfix
        · exact hi.trans (List.prefix_append _ _).isInfix
  · next hlines =>
      constructor
      · exact .inr
      · rintro (⟨p, -, hsize⟩ | hi)
        · rw [List.append_assoc _ p r, size_append] at hsize
          omega
        · exact hi

section Texts

theorem relevant_known {s : String} {hazard_types : List HazardType}
    (h : s ∈ relevant_degraded hazard_types degraded) :
    s = "aemet" ∨ s = "ign" ∨ s = "effis" := by
  obtain ⟨-, hwanted⟩ := List.mem_filter.mp ((List.mem_insertionSort _).mp h)
  obtain ⟨hazard, -, hsource⟩ := List.mem_filterMap.mp (of_decide_eq_true hwanted)
  have hmem := Dict.mem_of_get hsource
  simp only [SOURCE_BY_HAZARD, List.mem_cons, Prod.mk.injEq, List.not_mem_nil, or_false] at hmem
  rcases hmem with ⟨-, rfl⟩ | ⟨-, rfl⟩ | ⟨-, rfl⟩
  · exact .inl rfl
  · exact .inr (.inl rfl)
  · exact .inr (.inr rfl)

theorem attribution_line {source : String} {a : SourceAttribution}
    (h : Dict.get source ATTRIBUTIONS = some a) : '\n' ∉ a.text.toList ∧ a.text ≠ "" := by
  have hmem := Dict.mem_of_get h
  simp only [ATTRIBUTIONS, List.mem_cons, Prod.mk.injEq, List.not_mem_nil, or_false] at hmem
  rcases hmem with ⟨-, rfl⟩ | ⟨-, rfl⟩ | ⟨-, rfl⟩ | ⟨-, rfl⟩
  · exact ⟨not_mem_literal (by decide), by simp⟩
  · exact ⟨not_mem_append (not_mem_literal (by decide)) (not_mem_literal (by decide)), by simp⟩
  · exact ⟨not_mem_literal (by decide), by simp⟩
  · exact ⟨not_mem_literal (by decide), by simp⟩

theorem degraded_note_line {sources : List String}
    (h : ∀ s ∈ sources, '\n' ∉ ((Dict.get s Texts.SOURCE_NAMES).getD s).toList) :
    '\n' ∉ (Texts.degraded_note sources).toList := by
  have hfirst : '\n' ∉ "Ojo: sin datos recientes de ".toList := not_mem_literal (by decide)
  have hsep : '\n' ∉ ", ".toList := not_mem_literal (by decide)
  have hlast : '\n' ∉ "; puede haber avisos que no han llegado.".toList :=
    not_mem_literal (by decide)
  refine not_mem_append (not_mem_append hfirst (not_mem_join hsep (fun text htext => ?_))) hlast
  obtain ⟨s, hs, rfl⟩ := List.mem_map.mp htext
  exact h s hs

theorem note_line {hazard_types : List HazardType} :
    '\n' ∉ (Texts.degraded_note (relevant_degraded hazard_types degraded)).toList := by
  refine degraded_note_line (fun s hs => ?_)
  rcases relevant_known hs with rfl | rfl | rfl
  · show '\n' ∉ "AEMET".toList
    exact not_mem_literal (by decide)
  · show '\n' ∉ "IGN".toList
    exact not_mem_literal (by decide)
  · show '\n' ∉ "EFFIS".toList
    exact not_mem_literal (by decide)

theorem notice_line : '\n' ∉ Texts.NOTICE.toList :=
  not_mem_append (not_mem_literal (by decide)) (not_mem_literal (by decide))

theorem required_line {r : String} (h : Required claim degraded r) : '\n' ∉ r.toList := by
  cases h with
  | notice => exact notice_line
  | attribution _ known => exact (attribution_line known).1
  | note _ => exact note_line

end Texts

section Sources

theorem mem_mapM {ε α β : Type} {f : α → Except ε β} {xs : List α} {ys : List β}
    (h : xs.mapM f = .ok ys) {y : β} : y ∈ ys ↔ ∃ x ∈ xs, f x = .ok y := by
  induction xs generalizing ys with
  | nil =>
      obtain rfl := Except.ok.inj h
      simp
  | cons x xs ih =>
      rw [List.mapM_cons] at h
      obtain ⟨first, hfirst, h⟩ := bind_ok.mp h
      obtain ⟨rest, hrest, h⟩ := bind_ok.mp h
      obtain rfl := Except.ok.inj h
      rw [List.mem_cons, ih hrest]
      constructor
      · rintro (rfl | ⟨z, hz, hy⟩)
        · exact ⟨x, List.mem_cons_self, hfirst⟩
        · exact ⟨z, List.mem_cons_of_mem _ hz, hy⟩
      · rintro ⟨z, hz, hy⟩
        rcases List.mem_cons.mp hz with rfl | hz
        · exact .inl (Except.ok.inj (hy.symm.trans hfirst))
        · exact .inr ⟨z, hz, hy⟩

theorem mem_of_items {name : String} {default_ : PyJson} {deliveries : List PendingDelivery}
    {values : List PyJson} (h : of_items name default_ deliveries = .ok values) {v : PyJson} :
    v ∈ values ↔ ∃ d ∈ deliveries, ∃ item ∈ d.items, ∃ p, props item = .ok p ∧
      dict_get_or name default_ p = .ok v := by
  rw [mem_mapM h]
  constructor
  · rintro ⟨item, hitem, hv⟩
    obtain ⟨d, hd, hitem⟩ := List.mem_flatMap.mp hitem
    obtain ⟨p, hp, hv⟩ := bind_ok.mp hv
    exact ⟨d, hd, item, hitem, p, hp, hv⟩
  · rintro ⟨d, hd, item, hitem, p, hp, hv⟩
    exact ⟨item, List.mem_flatMap.mpr ⟨d, hd, hitem⟩, bind_ok.mpr ⟨p, hp, hv⟩⟩

theorem text_eq_some {v : PyJson} {s : String} : text? v = some s ↔ v = .str s := by
  cases v <;> simp [text?]

theorem mem_sources {names : List String} (h : Rendering.sources claim = .ok names) {s : String} :
    s ∈ names ↔ s ≠ "" ∧ Present claim s := by
  obtain ⟨values, hvalues, h⟩ := bind_ok.mp h
  have hmem : Present claim s ↔ .str s ∈ values := (mem_of_items hvalues).symm
  rw [hmem]
  split at h
  · cases h
  · dsimp only at h
    split at h
    · obtain rfl := Except.ok.inj h
      rw [sorted, List.mem_insertionSort, List.mem_dedup, List.mem_filterMap]
      constructor
      · rintro ⟨v, hv, hs⟩
        obtain rfl := text_eq_some.mp hs
        obtain ⟨hv, hne⟩ := List.mem_filter.mp hv
        exact ⟨by simpa [is_text] using hne, hv⟩
      · rintro ⟨hne, hv⟩
        exact ⟨.str s, List.mem_filter.mpr ⟨hv, by simpa [is_text] using hne⟩, rfl⟩
    · cases h

end Sources

section Footer

variable {names relevant : List String} {r : String}

theorem footer_line {line : String} (hne : line ≠ "")
    (h : line ∈ [Texts.NOTICE, join " | " ((attributions_for names).map SourceAttribution.text)] ++
      (if relevant = [] then [] else [Texts.degraded_note relevant])) :
    line.toList <:+: footer_text names relevant :=
  infix_join (List.mem_filter.mpr ⟨h, decide_eq_true hne⟩)

theorem notice_ne : Texts.NOTICE ≠ "" := by
  intro h
  exact absurd (String.append_eq_empty_iff.mp h).2 (by simp)

theorem notice_shown : Texts.NOTICE.toList <:+: footer_text names relevant :=
  footer_line notice_ne (List.mem_append_left _ List.mem_cons_self)

theorem attribution_shown {source : String} {a : SourceAttribution} (h : source ∈ names)
    (ha : Dict.get source ATTRIBUTIONS = some a) :
    a.text.toList <:+: footer_text names relevant := by
  have htexts : a.text ∈ (attributions_for names).map SourceAttribution.text := by
    refine List.mem_map_of_mem (List.mem_filterMap.mpr ⟨source, ?_, ha⟩)
    exact (List.mem_insertionSort _).mpr (List.mem_dedup.mpr h)
  have hline : a.text.toList <:+:
      (join " | " ((attributions_for names).map SourceAttribution.text)).toList :=
    infix_join htexts
  have hne : join " | " ((attributions_for names).map SourceAttribution.text) ≠ "" := by
    intro heq
    rw [heq] at hline
    exact (attribution_line ha).2 (String.toList_eq_nil_iff.mp (List.eq_nil_of_infix_nil hline))
  refine hline.trans (footer_line hne (List.mem_append_left _ ?_))
  exact List.mem_cons_of_mem _ List.mem_cons_self

theorem degraded_note_ne (sources : List String) : Texts.degraded_note sources ≠ "" := by
  intro h
  have hlast := (String.append_eq_empty_iff.mp h).2
  exact absurd hlast (by simp)

theorem note_shown (h : relevant ≠ []) :
    (Texts.degraded_note relevant).toList <:+: footer_text names relevant := by
  refine footer_line (degraded_note_ne relevant) (List.mem_append_right _ ?_)
  rw [if_neg h]
  exact List.mem_cons_self

theorem required_shown (hs : Rendering.sources claim = .ok names) (h : Required claim degraded r) :
    r.toList <:+: footer_text names (relevant_degraded claim.hazard_types degraded) := by
  cases h with
  | notice => exact notice_shown
  | @attribution source a present known =>
      refine attribution_shown ((mem_sources hs).mpr ⟨?_, present⟩) known
      rintro rfl
      cases known
  | note hne => exact note_shown hne

theorem reached_of_fits {lines : List String} (hf : FitsNtfy lines names relevant)
    (hr : r.toList <:+: footer_text names relevant) : Reached lines names relevant r := by
  obtain ⟨p, q, heq⟩ := hr
  refine ⟨p, ⟨q, heq⟩, ?_⟩
  simp only [FitsNtfy, ← heq, size_append] at hf ⊢
  omega

end Footer

section Cap

theorem utf8ByteSize_eq (s : String) : s.utf8ByteSize = size s.toList := by
  rw [← String.size_toByteArray, ← String.utf8Encode_toList, List.utf8Encode,
    List.size_toByteArray]
  exact length_encode s.toList

theorem cap_utf8_toList (text : String) (n : Nat) : (cap_utf8 text n).toList = fit n text.toList := by
  simp only [cap_utf8, length_encode]
  split
  · next h => exact (fit_eq_self h).symm
  · next h =>
      rw [decode, String.toList_ofList, decode_take]
      rw [List.length_take, length_encode]
      omega

theorem cap_utf8_longest (text : String) (max_bytes : Nat) :
    (cap_utf8 text max_bytes).toList <+: text.toList ∧
    (cap_utf8 text max_bytes).utf8ByteSize ≤ max_bytes ∧
    (∀ longer : String, longer.toList <+: text.toList → longer.utf8ByteSize ≤ max_bytes →
      longer.toList <+: (cap_utf8 text max_bytes).toList) ∧
    (text.utf8ByteSize ≤ max_bytes → cap_utf8 text max_bytes = text) := by
  simp only [utf8ByteSize_eq, cap_utf8_toList]
  refine ⟨fit_prefix_self _ _, size_fit _ _, fun longer => prefix_fit, fun h => ?_⟩
  rw [← String.toList_inj, cap_utf8_toList]
  exact fit_eq_self h

-- three bytes cut the second of two letters of two bytes
example : cap_utf8 "ññ" 3 = "ñ" := by decide +kernel

theorem body_toList {lines names : List String}
    (h : render_ntfy lib claim degraded base_url max_items = .ok message)
    (hl : body_lines lib claim.deliveries max_items = .ok lines)
    (hs : Rendering.sources claim = .ok names) :
    message.body.toList = heading lines ++
      footer_text names (relevant_degraded claim.hazard_types degraded) := by
  obtain ⟨lines', hlines, h⟩ := bind_ok.mp h
  obtain ⟨title, -, h⟩ := bind_ok.mp h
  obtain ⟨names', hnames, h⟩ := bind_ok.mp h
  obtain ⟨click, -, h⟩ := bind_ok.mp h
  obtain ⟨hazards, -, h⟩ := bind_ok.mp h
  obtain ⟨tags, -, h⟩ := bind_ok.mp h
  obtain ⟨priority, -, h⟩ := bind_ok.mp h
  obtain rfl := Except.ok.inj h
  obtain rfl := Except.ok.inj (hlines.symm.trans hl)
  obtain rfl := Except.ok.inj (hnames.symm.trans hs)
  simp [heading, footer_text]

theorem posted_toList {lines names : List String} (topic : String)
    (h : render_ntfy lib claim degraded base_url max_items = .ok message)
    (hl : body_lines lib claim.deliveries max_items = .ok lines)
    (hs : Rendering.sources claim = .ok names) :
    (ntfy_payload topic message).message.toList = fit 4096 (heading lines ++
      footer_text names (relevant_degraded claim.hazard_types degraded)) := by
  rw [← body_toList h hl hs]
  exact cap_utf8_toList message.body 4096

end Cap

-- what is posted has every text the claim's message has to carry, or the cut took one away that
-- the lines do not quote
theorem ntfy_footer {lines names : List String}
    (h : render_ntfy lib claim degraded base_url max_items = .ok message)
    (hl : body_lines lib claim.deliveries max_items = .ok lines)
    (hs : Rendering.sources claim = .ok names) :
    NtfyOk claim degraded (ntfy_payload topic message).message ↔
      FitsNtfy lines names (relevant_degraded claim.hazard_types degraded) ∨
        ∀ r, Required claim degraded r →
          ¬Reached lines names (relevant_degraded claim.hazard_types degraded) r →
          Quoted lines r := by
  have hposted := posted_toList topic h hl hs
  have hkept : ∀ r, Required claim degraded r →
      (r.toList <:+: (ntfy_payload topic message).message.toList ↔
        Reached lines names (relevant_degraded claim.hazard_types degraded) r ∨
          Quoted lines r) := by
    intro r hr
    rw [hposted]
    exact infix_cut (required_line hr)
  constructor
  · intro hok
    refine .inr (fun r hr hcut => ?_)
    exact ((hkept r hr).mp (hok.texts r hr)).resolve_left hcut
  · intro hcond
    refine ⟨?_, String.isValidUTF8 _, fun r hr => (hkept r hr).mpr ?_⟩
    · rw [utf8ByteSize_eq, hposted]
      exact size_fit _ _
    · rcases hcond with hfits | hquoted
      · exact .inl (reached_of_fits hfits (required_shown hs hr))
      · by_cases hcut : Reached lines names (relevant_degraded claim.hazard_types degraded) r
        · exact .inl hcut
        · exact .inr (hquoted r hr hcut)

section Samples

-- Madrid and the Canaries on 2026-07-02 at 12:00 UTC
def sample_text : PyText where
  eq := fun v w =>
    match v, w with
    | .str s, .str t => s == t
    | _, _ => false
  str := fun v =>
    match v with
    | .int n => toString n
    | _ => "None"
  lower := fun s => String.ofList (s.toList.map Char.toLower)
  float := fun _ => .error .type_error
  fixed := fun _ _ => ""
  astimezone := fun zone _ =>
    match zone with
    | .peninsula => .ok ⟨3, 2, 6, 14, 0⟩
    | .canarias => .ok ⟨3, 2, 6, 13, 0⟩

def warned_attrs (zone : String) : PyJson :=
  .obj [("level", .str "amarillo"), ("phenomenon", .str "TO;Tormentas"), ("area_desc", .str zone)]

def warned_props (zone : String) : PyJson :=
  .obj [("hazard_type", .str "weather_warning"), ("source", .str "aemet"),
    ("starts_at", .str "2026-07-02T12:00:00+00:00"), ("ends_at", .str "2026-07-02T12:00:00+00:00"),
    ("attrs", warned_attrs zone)]

def warned (zone : String) : PyJson :=
  .obj [("type", .str "Feature"), ("id", .int 1), ("geometry", .null),
    ("properties", warned_props zone)]

def warned_claim (zone : String) : ClaimedSubscription where
  id := 1
  channel := .ntfy
  endpoint := "https://ntfy.sh"
  credential := "avisos"
  hazard_types := [.weather_warning]
  area_id := 1
  area_label := "Casa"
  previous_retry_at := none
  deliveries := [⟨1, 1, .opened, 2, [warned zone], 1⟩]

def warned_line (zone : String) : String :=
  "Aviso amarillo por tormentas" ++ ": " ++ zone ++ ", de " ++ "jue 2 jul 14:00" ++ " a " ++
    "jue 2 jul 14:00" ++ "."

variable {zone : String}

theorem warned_zones (h : zone ≠ "") : zones sample_text [warned zone] [] = .ok [.str zone] := by
  have hprops : props (warned zone) = .ok (warned_props zone) := rfl
  have htruthy : truthy_json (.str zone) = true := by simp [truthy_json, h]
  rw [zones, hprops]
  show Except.ok (if truthy_json (.str zone) && true then _ else _) = _
  rw [htruthy]
  rfl

theorem warned_describe (h : zone ≠ "") :
    Rendering.describe sample_text ⟨1, 1, .opened, 2, [warned zone], 1⟩ =
      .ok ("Aviso amarillo por tormentas", warned_line zone) := by
  have hweather : is_text "weather_warning" (.str "weather_warning") = true := by
    simp [is_text]
  have hname : Texts.phenomenon_name sample_text (.str "TO;Tormentas") = .ok "tormentas" := by
    decide +kernel
  have hwhen : Texts.when_ sample_text (.str "2026-07-02T12:00:00+00:00") .peninsula =
      .ok "jue 2 jul 14:00" := by decide +kernel
  have hheadline : "Aviso " ++ text_or sample_text "?" (.str "amarillo") ++ " por " ++ "tormentas" =
      "Aviso amarillo por tormentas" := by decide +kernel
  have hjoin : join_names ", " ([.str zone].take MAX_ZONES_IN_LINE) = .ok zone := rfl
  refine bind_ok.mpr ⟨warned_props zone, rfl, ?_⟩
  refine bind_ok.mpr ⟨warned_attrs zone, rfl, ?_⟩
  refine bind_ok.mpr ⟨.peninsula, rfl, ?_⟩
  refine bind_ok.mpr ⟨.str "weather_warning", rfl, ?_⟩
  refine bind_ok.mpr ⟨_, rfl, ?_⟩
  rw [if_pos hweather]
  refine bind_ok.mpr ⟨_, rfl, ?_⟩
  refine bind_ok.mpr ⟨_, rfl, ?_⟩
  refine bind_ok.mpr ⟨_, hname, ?_⟩
  refine bind_ok.mpr ⟨_, warned_zones h, ?_⟩
  refine bind_ok.mpr ⟨_, hjoin, ?_⟩
  refine bind_ok.mpr ⟨_, rfl, ?_⟩
  refine bind_ok.mpr ⟨_, hwhen, ?_⟩
  refine bind_ok.mpr ⟨_, hwhen, ?_⟩
  show Except.ok ("Aviso " ++ text_or sample_text "?" (.str "amarillo") ++ " por " ++ "tormentas",
    _) = _
  rw [hheadline]
  simp only [if_neg h]
  rfl

theorem warned_lines (h : zone ≠ "") :
    body_lines sample_text (warned_claim zone).deliveries 5 = .ok [warned_line zone] := by
  refine bind_ok.mpr ⟨[("Aviso amarillo por tormentas", warned_line zone)], ?_, rfl⟩
  show [_].mapM (Rendering.describe sample_text) = _
  rw [List.mapM_cons, warned_describe h]
  rfl

theorem warned_sources : Rendering.sources (warned_claim zone) = .ok ["aemet"] :=
  bind_ok.mpr ⟨[.str "aemet"], rfl, by decide +kernel⟩

theorem warned_title (h : zone ≠ "") : title_of sample_text (warned_claim zone) =
    .ok ("Aviso amarillo por tormentas" ++ " - " ++ "Casa") :=
  bind_ok.mpr ⟨_, warned_describe h, rfl⟩

def warned_message (zone : String) (degraded : List String) : NtfyMessage where
  title := "Aviso amarillo por tormentas" ++ " - " ++ "Casa"
  body := join "\n" [warned_line zone] ++ "\n\n" ++
    join "\n" (footer_lines ["aemet"] (relevant_degraded [.weather_warning] degraded))
  priority := 3
  tags := ["warning"]
  click := some "https://alertas.ajustino.dev/e/1"

theorem warned_rendered (h : zone ≠ "") (degraded : List String) :
    render_ntfy sample_text (warned_claim zone) degraded "https://alertas.ajustino.dev/" 5 =
      .ok (warned_message zone degraded) := by
  refine bind_ok.mpr ⟨_, warned_lines h, ?_⟩
  refine bind_ok.mpr ⟨_, warned_title h, ?_⟩
  refine bind_ok.mpr ⟨_, warned_sources, ?_⟩
  refine bind_ok.mpr ⟨some "https://alertas.ajustino.dev/e/1", ?_, ?_⟩
  · exact bind_ok.mpr ⟨.int 1, rfl, by decide +kernel⟩
  refine bind_ok.mpr ⟨[.str "weather_warning"], rfl, ?_⟩
  refine bind_ok.mpr ⟨[some "warning"], by decide +kernel, ?_⟩
  refine bind_ok.mpr ⟨3, rfl, ?_⟩
  rfl

theorem size_text {s t : String} {m n : Nat} (hs : size s.toList ≤ m) (ht : size t.toList ≤ n) :
    size (s ++ t).toList ≤ m + n := by
  rw [String.toList_append, size_append]
  exact Nat.add_le_add hs ht

theorem size_literal {cs : List Char} (h : size cs ≤ 100) :
    size (String.ofList cs).toList ≤ 100 := by
  rwa [String.toList_ofList]

theorem warned_line_size (zone : String) (h : size zone.toList ≤ 100) :
    size (warned_line zone).toList ≤ 100 + 100 + 100 + 100 + 100 + 100 + 100 + 100 := by
  refine size_text (size_text (size_text (size_text (size_text (size_text (size_text ?_ ?_) h) ?_)
    ?_) ?_) ?_) ?_ <;> exact size_literal (by decide)

theorem warned_footer_size : size (footer_text ["aemet"] ["aemet"]) ≤ 1000 := by
  have hlines : footer_lines ["aemet"] ["aemet"] =
      [Texts.NOTICE, "Fuente: AEMET", Texts.degraded_note ["aemet"]] := rfl
  have hnotice : size Texts.NOTICE.toList ≤ 100 + 100 :=
    size_text (size_literal (by decide)) (size_literal (by decide))
  have hname : size (join ", " (["aemet"].map
      (fun s => (Dict.get s Texts.SOURCE_NAMES).getD s))).toList ≤ 100 := by
    show size "AEMET".toList ≤ 100
    exact size_literal (by decide)
  have hnote : size (Texts.degraded_note ["aemet"]).toList ≤ 100 + 100 + 100 :=
    size_text (size_text (size_literal (by decide)) hname) (size_literal (by decide))
  have hbreak : size "\n".toList ≤ 100 := size_literal (by decide)
  have hsource : size "Fuente: AEMET".toList ≤ 100 := size_literal (by decide)
  have hjoin := size_text (size_text hnotice hbreak) (size_text (size_text hsource hbreak) hnote)
  rw [footer_text, hlines]
  exact Nat.le_trans hjoin (by decide)

theorem ntfy_footer_vega : NtfyOk (warned_claim "Vega") ["aemet"]
    (ntfy_payload "avisos" (warned_message "Vega" ["aemet"])).message := by
  have hzone : "Vega" ≠ "" := by simp
  have hline := warned_line_size "Vega" (size_literal (by decide))
  have hblank : size ['\n', '\n'] = 2 := rfl
  have hfooter := warned_footer_size
  refine (ntfy_footer (warned_rendered hzone _) (warned_lines hzone) warned_sources).mpr (.inl ?_)
  have hdegraded : relevant_degraded (warned_claim "Vega").hazard_types ["aemet"] = ["aemet"] := rfl
  simp only [FitsNtfy, heading, join, size_append, hdegraded]
  omega

theorem infix_warned_line (zone : String) : zone.toList <:+: (warned_line zone).toList := by
  have hstart : zone.toList <:+: ("Aviso amarillo por tormentas" ++ ": " ++ zone).toList := by
    rw [String.toList_append]
    exact (List.suffix_append _ _).isInfix
  exact infix_append (infix_append (infix_append (infix_append (infix_append hstart))))

theorem not_mem_warned_line (h : 'C' ∉ zone.toList) : 'C' ∉ (warned_line zone).toList := by
  refine not_mem_append (not_mem_append (not_mem_append (not_mem_append (not_mem_append
    (not_mem_append (not_mem_append ?_ ?_) h) ?_) ?_) ?_) ?_) ?_ <;>
    exact not_mem_literal (by decide)

def long_zone : String := String.ofList (List.replicate 4096 'a')

theorem long_zone_cuts_notice :
    render_ntfy sample_text (warned_claim long_zone) [] "https://alertas.ajustino.dev/" 5 =
        .ok (warned_message long_zone []) ∧
      (warned_claim long_zone).deliveries ≠ [] ∧
      ¬ NtfyOk (warned_claim long_zone) []
        (ntfy_payload "avisos" (warned_message long_zone [])).message := by
  have hlist : long_zone.toList = List.replicate 4096 'a' := String.toList_ofList
  have hsize : size long_zone.toList = 4096 := by
    rw [hlist, size, List.map_replicate, List.sum_replicate_nat]
    rfl
  have hline := size_le_of_infix (infix_warned_line long_zone)
  have hletters : 'C' ∉ long_zone.toList := by
    rw [hlist, List.mem_replicate]
    exact fun h => absurd h.2 (by decide)
  have hzone : long_zone ≠ "" := by
    intro h
    rw [h] at hsize
    exact absurd hsize (by decide)
  refine ⟨warned_rendered hzone [], List.cons_ne_nil _ _, fun hok => ?_⟩
  have hnotice := hok.texts _ .notice
  rw [posted_toList _ (warned_rendered hzone []) (warned_lines hzone) warned_sources] at hnotice
  rcases (infix_cut notice_line).mp hnotice with ⟨p, -, hcut⟩ | hquoted
  · have hblank : size ['\n', '\n'] = 2 := rfl
    simp only [size_append, join] at hcut
    omega
  · have hletter : 'C' ∈ Texts.NOTICE.toList :=
      (infix_append (List.infix_refl _)).subset (mem_literal (by decide))
    have hkept := (fit_prefix_self _ _).subset (hquoted.subset hletter)
    rcases List.mem_append.mp hkept with h | h
    · exact not_mem_warned_line hletters h
    · exact absurd h (by decide)

end Samples

end GeoHazard
