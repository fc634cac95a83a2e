import GeoHazard.Library.CappedLoop

namespace GeoHazard
open CappedLoop

abbrev Bytes := List UInt8

-- aiter_bytes gives no empty chunk
abbrev Chunk := {bytes : Bytes // bytes ≠ []}

structure HttpRequest where
  url : String
  params : List (String × String)
  headers : List (String × String)

-- the text of an httpx.HTTPError, or an answer whose body comes as it is read
inductive HttpReply where
  | http_error (message : String)
  | response (status_code : Nat) (body : Nat → Event Chunk String)

-- what comes back for the last of the requests sent so far
abbrev Network := List HttpRequest → HttpReply

inductive HttpFailure where
  | http_error (message : String)
  | response_too_large (message : String)
  | invalid_url

def read_loop (max_bytes : Nat) : Loop Chunk HttpFailure Bytes where
  cap := max_bytes
  weight chunk := chunk.val.length
  exceeded := .response_too_large ("response body exceeded " ++ toString max_bytes ++ " bytes")
  step body chunk := .ok (body ++ chunk.val)
  weight_pos chunk := List.length_pos_of_ne_nil chunk.property

def read_body (max_bytes : Nat) (body : Nat → Event Chunk String) : Except HttpFailure Bytes :=
  (read_loop max_bytes).run (fun i => (body i).mapError .http_error) 0 0 []

def get_capped (invalid_url : String → Bool) (network : Network) (sent : List HttpRequest)
    (request : HttpRequest) (max_bytes : Nat) (read_error_body : Bool) :
    List HttpRequest × Except HttpFailure (Nat × Bytes) :=
  if invalid_url request.url then (sent, .error .invalid_url)
  else
    (sent ++ [request],
      match network (sent ++ [request]) with
      | .http_error message => .error (.http_error message)
      | .response status_code body =>
          if status_code ≠ 200 ∧ read_error_body = false then .ok (status_code, [])
          else
            match read_body max_bytes body with
            | .error e => .error e
            | .ok bytes => .ok (status_code, bytes))

def Whole (body : Nat → Event Chunk String) (bytes : Bytes) : Prop :=
  ∃ chunks, Items body 0 chunks ∧ body chunks.length = .stop ∧
    bytes = (chunks.map Subtype.val).flatten

-- what a reader of at most cap bytes cannot tell apart
inductive SameReply (cap : Nat) : HttpReply → HttpReply → Prop
  | http_error (message : String) : SameReply cap (.http_error message) (.http_error message)
  | response (status_code : Nat) {body body' : Nat → Event Chunk String}
      (h : ∀ i ≤ cap, body i = body' i) :
      SameReply cap (.response status_code body) (.response status_code body')

variable {invalid_url : String → Bool} {network : Network} {sent : List HttpRequest}
  {request : HttpRequest} {max_bytes : Nat} {body : Nat → Event Chunk String} {bytes : Bytes}

theorem length_flatten (chunks : List Chunk) : (chunks.map Subtype.val).flatten.length =
    Dict.total (read_loop max_bytes).weight chunks := by
  induction chunks with
  | nil => rfl
  | cons chunk chunks ih =>
      rw [List.map_cons, List.flatten_cons, List.length_append, ih]
      rfl

theorem taken_bytes {events : Nat → Event Chunk HttpFailure} {i : Nat} {s t : Bytes}
    {chunks : List Chunk} :
    Taken (read_loop max_bytes) events i s chunks t ↔
      Items events i chunks ∧ t = s ++ (chunks.map Subtype.val).flatten := by
  constructor
  · intro h
    refine ⟨h.items, ?_⟩
    induction h with
    | nil => simp
    | cons _ hs _ ih =>
        obtain rfl := Except.ok.inj hs
        simp [ih]
  · rintro ⟨hi, rfl⟩
    induction chunks generalizing i s with
    | nil => simpa using Taken.nil i s
    | cons chunk chunks ih =>
        have hrest := @ih (i + 1) (s ++ chunk.val) hi.2
        rw [List.append_assoc] at hrest
        exact .cons hi.1 rfl (by simpa using hrest)

theorem read_body_ok_iff :
    read_body max_bytes body = .ok bytes ↔ Whole body bytes ∧ bytes.length ≤ max_bytes := by
  constructor
  · intro h
    obtain ⟨chunks, ht, hle, hstop⟩ := run_ok h (Nat.zero_le _)
    obtain ⟨hi, rfl⟩ := taken_bytes.mp ht
    rw [items_mapError] at hi
    refine ⟨⟨chunks, hi, by simpa using hstop, by simp⟩, ?_⟩
    rw [List.nil_append, @length_flatten max_bytes chunks, ← Nat.zero_add (Dict.total _ _)]
    exact hle
  · rintro ⟨⟨chunks, hi, hstop, rfl⟩, hle⟩
    rw [@length_flatten max_bytes chunks] at hle
    refine run_of_taken (taken_bytes.mpr ⟨items_mapError.mpr hi, by simp⟩) ?_ (by simpa using hstop)
    rw [Nat.zero_add]
    exact hle

theorem read_body_congr {body' : Nat → Event Chunk String} (h : ∀ i ≤ max_bytes, body i = body' i) :
    read_body max_bytes body = read_body max_bytes body' := by
  refine run_congr (fun k hk => ?_)
  rw [Nat.zero_add, h k hk]

theorem get_capped_congr {network' : Network} {read_error_body : Bool}
    (h : SameReply max_bytes (network (sent ++ [request])) (network' (sent ++ [request]))) :
    get_capped invalid_url network sent request max_bytes read_error_body =
      get_capped invalid_url network' sent request max_bytes read_error_body := by
  simp only [get_capped]
  generalize network (sent ++ [request]) = reply at h
  generalize network' (sent ++ [request]) = reply' at h
  cases h with
  | http_error message => rfl
  | response status_code hbody => simp only [read_body_congr hbody]

theorem get_capped_sent (read_error_body : Bool) :
    (get_capped invalid_url network sent request max_bytes read_error_body).1 = sent ∨
      (get_capped invalid_url network sent request max_bytes read_error_body).1 =
        sent ++ [request] := by
  unfold get_capped
  split
  · exact .inl rfl
  · exact .inr rfl

theorem get_capped_ok_iff {read_error_body : Bool} {after : List HttpRequest} {status_code : Nat} :
    get_capped invalid_url network sent request max_bytes read_error_body =
      (after, .ok (status_code, bytes)) ↔ invalid_url request.url = false ∧ after = sent ++ [request] ∧
      ∃ body, network (sent ++ [request]) = .response status_code body ∧
        if status_code = 200 ∨ read_error_body = true then
          Whole body bytes ∧ bytes.length ≤ max_bytes
        else bytes = [] := by
  unfold get_capped
  split
  · next hinvalid => simp [hinvalid]
  · next hvalid =>
      rw [Bool.not_eq_true] at hvalid
      simp only [Prod.mk.injEq, hvalid, true_and, @eq_comm _ after]
      refine and_congr_right (fun _ => ?_)
      cases hn : network (sent ++ [request]) with
      | http_error message => simp
      | response status body =>
          simp only [HttpReply.response.injEq]
          split
          · next hno =>
              simp only [Except.ok.injEq, Prod.mk.injEq]
              constructor
              · rintro ⟨rfl, rfl⟩
                exact ⟨body, ⟨rfl, rfl⟩, by simp [hno]⟩
              · rintro ⟨_, ⟨rfl, rfl⟩, h⟩
                simp only [hno, Bool.false_eq_true, or_self, if_false] at h
                exact ⟨rfl, h.symm⟩
          · next hread =>
              have hreads : status = 200 ∨ read_error_body = true := by
                rw [not_and_or, not_not, Bool.not_eq_false] at hread
                exact hread
              cases hb : read_body max_bytes body with
              | error e =>
                  simp only [reduceCtorEq, false_iff, not_exists, not_and]
                  rintro _ ⟨rfl, rfl⟩ h
                  rw [if_pos hreads, ← read_body_ok_iff, hb] at h
                  simp at h
              | ok found =>
                  simp only [Except.ok.injEq, Prod.mk.injEq]
                  constructor
                  · rintro ⟨rfl, rfl⟩
                    exact ⟨body, ⟨rfl, rfl⟩, by rw [if_pos hreads, ← read_body_ok_iff, hb]⟩
                  · rintro ⟨_, ⟨rfl, rfl⟩, h⟩
                    rw [if_pos hreads, ← read_body_ok_iff, hb] at h
                    exact ⟨rfl, Except.ok.inj h⟩

end GeoHazard
