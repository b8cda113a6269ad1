import EventStoreClient.Session.Changes

/-!
# The invariant of a session

Who has asked what, what the server has answered, and what the entries have been told.
-/

namespace EventStoreClient
namespace Session

open Connection Foundation Operations Wire

/-!
# Requests and replies

Every package is a request, every reply is for one, and an operation asks once.  Under a
new id nothing has happened.
-/

structure Asked (w : Setting) (s : State) : Prop where
  sent_requests : forall p, p ∈ s.client.sent ->
    (exists request, request ∈ s.requests ∧ p = requestPackage w.connection request) ∨
      p = heartbeatResponse p.correlationId
  started_sent : forall key, key ∈ s.client.world.started ->
    exists r, (key, r) ∈ s.requests ∧ requestPackage w.connection (key, r) ∈ s.client.sent
  asked_once : forall key r r', key ∈ s.client.world.started ->
    (key, r) ∈ s.requests -> (key, r') ∈ s.requests -> r = r'
  subscribed_asked : forall key, key ∈ s.client.subscriptions ->
    key ∈ s.requests.map Prod.fst ∧ key ∉ s.client.world.started
  heartbeats_new : forall key, key ∈ s.heartbeats -> key ∉ s.requests.map Prod.fst
  replies_origin : forall p, p ∈ s.replies ->
    p.correlationId ∈ s.heartbeats ∨ IsAnswer w s.requests p

theorem initial_asked (w : Setting) : Asked w initial where
  sent_requests := fun _ h => absurd h List.not_mem_nil
  started_sent := fun _ h => absurd h List.not_mem_nil
  asked_once := fun _ _ _ h => absurd h List.not_mem_nil
  subscribed_asked := fun _ h => absurd h (AList.notMem_empty _)
  heartbeats_new := fun _ h => absurd h List.not_mem_nil
  replies_origin := fun _ h => absurd h List.not_mem_nil

theorem IsAnswer.mono {w : Setting} {requests : List (Guid × ClientRequest)} {p : Outgoing}
    (h : IsAnswer w requests p) (more : List (Guid × ClientRequest)) :
    IsAnswer w (requests ++ more) p := by
  rcases h with ⟨r, hr, hanswers⟩
  exact ⟨r, List.mem_append_left more hr, hanswers⟩

theorem IsAnswer.mem {w : Setting} {requests : List (Guid × ClientRequest)} {p : Outgoing}
    (h : IsAnswer w requests p) : p.correlationId ∈ requests.map Prod.fst := by
  rcases h with ⟨r, hr, _⟩
  exact List.mem_map_of_mem hr

namespace Asked

variable {w : Setting} {s next : State} {key : Guid}

theorem started_mem (h : Asked w s) (hkey : key ∈ s.client.world.started) :
    key ∈ s.requests.map Prod.fst := by
  rcases h.started_sent key hkey with ⟨r, hr, _⟩
  exact List.mem_map_of_mem hr

theorem new_notStarted (h : Asked w s) (hnew : s.New key) :
    key ∉ s.client.world.started :=
  fun hkey => hnew.left (h.started_mem hkey)

theorem new_notReplied (h : Asked w s) (hnew : s.New key) {p : Outgoing}
    (hp : p ∈ s.replies) : p.correlationId ≠ key := by
  rintro rfl
  rcases h.replies_origin p hp with hheartbeat | hanswer
  · exact hnew.right hheartbeat
  · exact hnew.left hanswer.mem

theorem started_notAsked {asked : List (Guid × ClientRequest)} {started : List Guid}
    {answered : List (Guid × ErrorCode)} (h : Asked w s)
    (hacts : Acts w asked started answered s next) (hkey : key ∈ s.client.world.started)
    {r : ClientRequest} : (key, r) ∉ asked := by
  intro hr
  rcases hacts.asked_known _ hr with hnew | hknown
  · exact h.new_notStarted hnew hkey
  · exact hknown.right hkey

theorem acts {asked : List (Guid × ClientRequest)} {started : List Guid}
    {answered : List (Guid × ErrorCode)} (h : Asked w s)
    (hacts : Acts w asked started answered s next) : Asked w next := by
  rcases hacts.sent_eq with ⟨beats, hsent, hbeats⟩
  constructor
  · intro p hp
    rw [hsent, List.mem_append, List.mem_append] at hp
    rw [hacts.requests_eq]
    rcases hp with hold | hasked | hbeat
    · rcases h.sent_requests p hold with ⟨request, hrequest, heq⟩ | heq
      · exact Or.inl ⟨request, List.mem_append_left asked hrequest, heq⟩
      · exact Or.inr heq
    · rcases List.mem_map.mp hasked with ⟨request, hrequest, rfl⟩
      exact Or.inl ⟨request, List.mem_append_right _ hrequest, rfl⟩
    · exact Or.inr (hbeats p hbeat)
  · intro key hkey
    rw [hacts.started_eq, List.mem_append] at hkey
    rw [hacts.requests_eq, hsent]
    rcases hkey with hold | hnew
    · rcases h.started_sent key hold with ⟨r, hr, hp⟩
      exact ⟨r, List.mem_append_left asked hr, List.mem_append_left _ hp⟩
    · rcases (hacts.started_new key hnew).right with ⟨r, hr⟩
      exact ⟨r, List.mem_append_right _ hr,
        List.mem_append_right _ (List.mem_append_left _ (List.mem_map_of_mem hr))⟩
  · intro key r r' hkey hr hr'
    rw [hacts.started_eq, List.mem_append] at hkey
    rw [hacts.requests_eq, List.mem_append] at hr hr'
    rcases hkey with hold | hstarted
    · exact h.asked_once key r r' hold (hr.resolve_right (h.started_notAsked hacts hold))
        (hr'.resolve_right (h.started_notAsked hacts hold))
    · have hnew := (hacts.started_new key hstarted).left.left
      have hfirst := hr.resolve_left fun hmem => hnew (List.mem_map_of_mem hmem)
      have hsecond := hr'.resolve_left fun hmem => hnew (List.mem_map_of_mem hmem)
      have honce := hacts.started_once (List.ne_nil_of_mem hstarted)
      exact congrArg Prod.snd (List.inj_on_of_nodup_map honce hfirst hsecond rfl)
  · intro key hkey
    rw [hacts.requests_eq, hacts.started_eq, List.map_append, List.mem_append, List.mem_append]
    rcases hacts.subscribed key hkey with hold | ⟨hnew, hasked, hstarted⟩
    · rcases h.subscribed_asked key hold with ⟨hmem, hnotStarted⟩
      refine ⟨Or.inl hmem, ?_⟩
      rintro (hstarted | hstarted)
      · exact hnotStarted hstarted
      · exact (hacts.started_new key hstarted).left.left hmem
    · refine ⟨Or.inr hasked, ?_⟩
      rintro (hold | hstarted')
      · exact h.new_notStarted hnew hold
      · exact hstarted hstarted'
  · intro key hkey
    rw [hacts.heartbeats_eq] at hkey
    rw [hacts.requests_eq, List.map_append, List.mem_append]
    rintro (hold | hasked)
    · exact h.heartbeats_new key hkey hold
    · rcases List.mem_map.mp hasked with ⟨request, hrequest, rfl⟩
      rcases hacts.asked_known request hrequest with hnew | hknown
      · exact hnew.right hkey
      · exact h.heartbeats_new _ hkey hknown.left
  · intro p hp
    rw [hacts.replies_eq] at hp
    rw [hacts.heartbeats_eq, hacts.requests_eq]
    exact (h.replies_origin p hp).imp_right fun hanswer => hanswer.mono asked

theorem replies {p : Outgoing} (h : Asked w s) (hreplies : Replies w p s next) :
    Asked w next := by
  have hrequests := hreplies.requests_eq
  have hclient := hreplies.client_eq
  constructor
  · rw [hclient, hrequests]
    exact h.sent_requests
  · rw [hclient, hrequests]
    exact h.started_sent
  · rw [hclient, hrequests]
    exact h.asked_once
  · rw [hclient, hrequests]
    exact h.subscribed_asked
  · rw [hrequests]
    rcases hreplies.origin with ⟨hheartbeats, _⟩ | ⟨hheartbeats, hnew⟩
    · rw [hheartbeats]
      exact h.heartbeats_new
    · intro key hkey
      rw [hheartbeats, List.mem_append, List.mem_singleton] at hkey
      rcases hkey with hold | rfl
      · exact h.heartbeats_new key hold
      · exact hnew.left
  · intro q hq
    rw [hreplies.replies_eq, List.mem_append, List.mem_singleton] at hq
    rw [hrequests]
    rcases hreplies.origin with ⟨hheartbeats, hanswer⟩ | ⟨hheartbeats, _⟩
    · rw [hheartbeats]
      rcases hq with hold | rfl
      · exact h.replies_origin q hold
      · exact Or.inr hanswer
    · rw [hheartbeats, List.mem_append, List.mem_singleton]
      rcases hq with hold | rfl
      · exact (h.replies_origin q hold).imp_left Or.inl
      · exact Or.inl (Or.inr rfl)

end Asked

/-!
# What the entries have been told

An operation that was started is told at most once, and then is answered; under a new id
nobody has been told anything, and a subscription is not an operation.
-/

/-- The calls of the entries, next to the replies that have been handled. -/
structure Told (s : State) : Prop where
  handled_le : s.handled ≤ s.replies.length
  handled_answered : forall p, p ∈ s.replies.take s.handled ->
    p.correlationId ∈ s.client.world.started ->
      p.correlationId ∈ Operation.answered s.client
  told_order : s.told.Sublist ((s.replies.take s.handled).map callOf)
  told_asked : forall key, key ∈ s.told.map Prod.fst -> key ∈ s.requests.map Prod.fst
  told_once : forall key, key ∈ s.client.world.started ->
    (s.told.map Prod.fst).count key ≤ 1
  told_answers : forall key, key ∈ s.client.world.started ->
    ((key, none) ∈ s.client.world.answers <-> key ∈ s.told.map Prod.fst)
  told_events : forall key, key ∈ s.client.subscriptions ->
    s.told.filter (fun call => call.1 = key) =
      ((s.replies.take s.handled).map callOf).filter fun call => call.1 = key

theorem initial_told : Told initial where
  handled_le := Nat.le_refl 0
  handled_answered := fun _ h => absurd h List.not_mem_nil
  told_order := List.Sublist.refl []
  told_asked := fun _ h => absurd h List.not_mem_nil
  told_once := fun _ h => absurd h List.not_mem_nil
  told_answers := fun _ h => absurd h List.not_mem_nil
  told_events := fun _ _ => rfl

theorem filter_key_eq_nil {calls : List (Guid × Package)} {key : Guid}
    (h : key ∉ calls.map Prod.fst) : calls.filter (fun call => call.1 = key) = [] := by
  rw [List.filter_eq_nil_iff]
  intro call hcall heq
  exact h (of_decide_eq_true heq ▸ List.mem_map_of_mem hcall)

namespace Told

variable {w : Setting} {s next : State} {key : Guid}

theorem told_replied (h : Told s) (hkey : key ∈ s.told.map Prod.fst) :
    exists p, p ∈ s.replies ∧ p.correlationId = key := by
  rcases List.mem_map.mp hkey with ⟨call, hcall, rfl⟩
  rcases List.mem_map.mp (h.told_order.subset hcall) with ⟨p, hp, rfl⟩
  exact ⟨p, List.mem_of_mem_take hp, rfl⟩

theorem new_notTold (h : Told s) (hasked : Asked w s) (hnew : s.New key) :
    key ∉ s.told.map Prod.fst := by
  intro hkey
  rcases h.told_replied hkey with ⟨p, hp, heq⟩
  exact hasked.new_notReplied hnew hp heq

theorem new_notHandled (hasked : Asked w s) (hnew : s.New key) :
    key ∉ ((s.replies.take s.handled).map callOf).map Prod.fst := by
  intro hkey
  rw [List.map_map] at hkey
  rcases List.mem_map.mp hkey with ⟨p, hp, heq⟩
  exact hasked.new_notReplied hnew (List.mem_of_mem_take hp) heq

theorem new_notAnswered (hbooks : Operation.Books none s.client) (hasked : Asked w s)
    (hnew : s.New key) (ec : ErrorCode) : (key, ec) ∉ s.client.world.answers := by
  intro hmem
  exact hasked.new_notStarted hnew
    ((hbooks.started_iff key).mpr (Or.inr (List.mem_map_of_mem hmem)))

theorem acts {asked : List (Guid × ClientRequest)} {started : List Guid}
    {answered : List (Guid × ErrorCode)} (h : Told s)
    (hbooks : Operation.Books none s.client) (hasked : Asked w s)
    (hacts : Acts w asked started answered s next) (hhandled : next.handled = s.handled)
    (htold : next.told = s.told) (hsilent : forall key, (key, none) ∉ answered) :
    Told next := by
  have htake : next.replies.take next.handled = s.replies.take s.handled := by
    rw [hacts.replies_eq, hhandled]
  constructor
  · rw [hhandled, hacts.replies_eq]
    exact h.handled_le
  · intro p hp hstarted
    rw [htake] at hp
    rw [hacts.started_eq, List.mem_append] at hstarted
    rw [Operation.answered, hacts.answers_eq, List.map_append, List.mem_append]
    rcases hstarted with hold | hnew
    · exact Or.inl (h.handled_answered p hp hold)
    · exact absurd rfl
        (hasked.new_notReplied (hacts.started_new _ hnew).left (List.mem_of_mem_take hp))
  · rw [htold, htake]
    exact h.told_order
  · intro key hkey
    rw [htold] at hkey
    rw [hacts.requests_eq, List.map_append]
    exact List.mem_append_left _ (h.told_asked key hkey)
  · intro key hkey
    rw [hacts.started_eq, List.mem_append] at hkey
    rw [htold]
    rcases hkey with hold | hnew
    · exact h.told_once key hold
    · have hnone := h.new_notTold hasked (hacts.started_new key hnew).left
      rw [List.count_eq_zero_of_not_mem hnone]
      exact Nat.zero_le 1
  · intro key hkey
    rw [hacts.started_eq, List.mem_append] at hkey
    rw [hacts.answers_eq, List.mem_append, htold, or_iff_left (hsilent key)]
    rcases hkey with hold | hstarted
    · exact h.told_answers key hold
    · have hnew := (hacts.started_new key hstarted).left
      exact iff_of_false (new_notAnswered hbooks hasked hnew none) (h.new_notTold hasked hnew)
  · intro key hkey
    rw [htold, htake]
    rcases hacts.subscribed key hkey with hold | ⟨hnew, _, _⟩
    · exact h.told_events key hold
    · rw [filter_key_eq_nil (h.new_notTold hasked hnew),
        filter_key_eq_nil (new_notHandled hasked hnew)]

theorem replies {p : Outgoing} (h : Told s) (hreplies : Replies w p s next) : Told next := by
  have hclient := hreplies.client_eq
  have htold := hreplies.told_eq
  have htake : next.replies.take next.handled = s.replies.take s.handled := by
    rw [hreplies.replies_eq, hreplies.handled_eq, List.take_append_of_le_length h.handled_le]
  constructor
  · rw [hreplies.handled_eq, hreplies.replies_eq, List.length_append]
    exact Nat.le_add_right_of_le h.handled_le
  · rw [htake, hclient]
    exact h.handled_answered
  · rw [htold, htake]
    exact h.told_order
  · rw [htold, hreplies.requests_eq]
    exact h.told_asked
  · rw [hclient, htold]
    exact h.told_once
  · rw [hclient, htold]
    exact h.told_answers
  · rw [hclient, htold, htake]
    exact h.told_events

end Told

/-- The next package has been handled: what has been called for it, and what that has
started. -/
structure Handling (w : Setting) (asked : List (Guid × ClientRequest)) (started : List Guid)
    (answered : List (Guid × ErrorCode)) (p : Outgoing) (s next : State) : Prop where
  told : Told s
  books : Operation.Books none s.client
  known : Asked w s
  is_next : s.replies[s.handled]? = some p
  acts : Acts w asked started answered s next
  handled_eq : next.handled = s.handled + 1
  called : Called p s next answered

namespace Handling

variable {w : Setting} {asked : List (Guid × ClientRequest)} {started : List Guid}
  {answered : List (Guid × ErrorCode)} {p : Outgoing} {s next : State} {key : Guid}

theorem mem_replies (h : Handling w asked started answered p s next) : p ∈ s.replies :=
  List.mem_of_getElem? h.is_next

theorem take_eq (h : Handling w asked started answered p s next) :
    next.replies.take next.handled = s.replies.take s.handled ++ [p] := by
  rw [h.acts.replies_eq, h.handled_eq, List.take_add_one, h.is_next]
  rfl

theorem calls_eq (h : Handling w asked started answered p s next) :
    (next.replies.take next.handled).map callOf =
      (s.replies.take s.handled).map callOf ++ [callOf p] := by
  rw [h.take_eq, List.map_append]
  rfl

theorem started_isNew (h : Handling w asked started answered p s next) (hkey : key ∈ started) :
    s.New key :=
  (h.acts.started_new key hkey).left

theorem not_new (h : Handling w asked started answered p s next) (hkey : s.New key) :
    p.correlationId ≠ key :=
  h.known.new_notReplied hkey h.mem_replies

theorem not_called (hother : p.correlationId ≠ key) : key ∉ [callOf p].map Prod.fst :=
  fun hcall => hother (List.mem_singleton.mp hcall).symm

theorem registered_started (h : Handling w asked started answered p s next)
    (hkey : p.correlationId ∈ s.client.operations) :
    p.correlationId ∈ s.client.world.started :=
  (h.books.started_iff _).mpr (Or.inl hkey)

theorem registered_notTold (h : Handling w asked started answered p s next)
    (hkey : p.correlationId ∈ s.client.operations) :
    p.correlationId ∉ s.told.map Prod.fst := by
  intro htold
  have hanswers := (h.told.told_answers _ (h.registered_started hkey)).mpr htold
  cases h.books.not_both hkey (List.mem_map_of_mem hanswers)

theorem subscribed_other (h : Handling w asked started answered p s next)
    (hsubscribed : p.correlationId ∈ s.client.subscriptions)
    (hkey : key ∈ s.client.world.started) : p.correlationId ≠ key := by
  rintro rfl
  exact (h.known.subscribed_asked _ hsubscribed).right hkey

theorem new_notTold (h : Handling w asked started answered p s next) (hkey : s.New key) :
    key ∉ next.told.map Prod.fst := by
  have hbefore := h.told.new_notTold h.known hkey
  have hnow : key ∉ (s.told ++ [callOf p]).map Prod.fst := by
    rw [List.map_append, List.mem_append]
    exact not_or_intro hbefore (not_called (h.not_new hkey))
  cases h.called with
  | operation _ htold => rwa [htold]
  | subscription _ _ htold => rwa [htold]
  | nothing _ _ htold => rwa [htold]

theorem handled_answered (h : Handling w asked started answered p s next) {q : Outgoing}
    (hq : q ∈ next.replies.take next.handled)
    (hstarted : q.correlationId ∈ next.client.world.started) :
    q.correlationId ∈ Operation.answered next.client := by
  rw [h.take_eq, List.mem_append, List.mem_singleton] at hq
  rw [h.acts.started_eq, List.mem_append] at hstarted
  rw [Operation.answered, h.acts.answers_eq, List.map_append, List.mem_append]
  have hmem : q ∈ s.replies := by
    rcases hq with hold | rfl
    · exact List.mem_of_mem_take hold
    · exact h.mem_replies
  have hold : q.correlationId ∈ s.client.world.started := by
    rcases hstarted with hold | hnew
    · exact hold
    · exact absurd rfl (h.known.new_notReplied (h.started_isNew hnew) hmem)
  rcases hq with hbefore | rfl
  · exact Or.inl (h.told.handled_answered q hbefore hold)
  · rcases (h.books.started_iff _).mp hold with hregistered | hanswered
    · cases h.called with
      | operation _ _ => exact Or.inr (List.mem_singleton_self _)
      | subscription hkey _ _ => exact absurd hregistered hkey
      | nothing hkey _ _ => exact absurd hregistered hkey
    · exact Or.inl hanswered

theorem told_order (h : Handling w asked started answered p s next) :
    next.told.Sublist ((next.replies.take next.handled).map callOf) := by
  rw [h.calls_eq]
  cases h.called with
  | operation _ htold =>
      rw [htold]
      exact h.told.told_order.append_right _
  | subscription _ _ htold =>
      rw [htold]
      exact h.told.told_order.append_right _
  | nothing _ _ htold =>
      rw [htold]
      exact h.told.told_order.trans (List.sublist_append_left _ _)

theorem told_asked (h : Handling w asked started answered p s next)
    (hkey : key ∈ next.told.map Prod.fst) : key ∈ s.requests.map Prod.fst := by
  cases h.called with
  | operation hregistered htold =>
      rw [htold, List.map_append, List.mem_append] at hkey
      rcases hkey with hold | hlast
      · exact h.told.told_asked key hold
      · rw [List.mem_singleton.mp hlast]
        exact h.known.started_mem (h.registered_started hregistered)
  | subscription _ hsubscribed htold =>
      rw [htold, List.map_append, List.mem_append] at hkey
      rcases hkey with hold | hlast
      · exact h.told.told_asked key hold
      · rw [List.mem_singleton.mp hlast]
        exact (h.known.subscribed_asked _ hsubscribed).left
  | nothing _ _ htold =>
      rw [htold] at hkey
      exact h.told.told_asked key hkey

theorem told_once_started (h : Handling w asked started answered p s next)
    (hkey : key ∈ s.client.world.started) : (next.told.map Prod.fst).count key ≤ 1 := by
  cases h.called with
  | operation hregistered htold =>
      rw [htold, List.map_append, List.count_append]
      by_cases heq : p.correlationId = key
      · subst heq
        rw [List.count_eq_zero_of_not_mem (h.registered_notTold hregistered), Nat.zero_add]
        exact List.count_le_length
      · rw [List.count_eq_zero_of_not_mem (not_called heq)]
        exact h.told.told_once key hkey
  | subscription _ hsubscribed htold =>
      have hother := h.subscribed_other hsubscribed hkey
      rw [htold, List.map_append, List.count_append,
        List.count_eq_zero_of_not_mem (not_called hother)]
      exact h.told.told_once key hkey
  | nothing _ _ htold =>
      rw [htold]
      exact h.told.told_once key hkey

theorem told_answers_started (h : Handling w asked started answered p s next)
    (hkey : key ∈ s.client.world.started) :
    (key, none) ∈ next.client.world.answers <-> key ∈ next.told.map Prod.fst := by
  rw [h.acts.answers_eq, List.mem_append, h.told.told_answers key hkey]
  cases h.called with
  | operation _ htold =>
      rw [htold, List.map_append, List.mem_append]
      exact or_congr_right (by simp [callOf])
  | subscription _ hsubscribed htold =>
      rw [htold, List.map_append, List.mem_append]
      have hother := h.subscribed_other hsubscribed hkey
      exact or_congr_right (iff_of_false List.not_mem_nil (not_called hother))
  | nothing _ _ htold => rw [htold, or_iff_left List.not_mem_nil]

theorem new_notAnswered (h : Handling w asked started answered p s next) (hkey : s.New key) :
    (key, none) ∉ next.client.world.answers := by
  rw [h.acts.answers_eq, List.mem_append]
  refine not_or_intro (Told.new_notAnswered h.books h.known hkey none) ?_
  intro hmem
  cases h.called with
  | operation hregistered _ =>
      cases List.mem_singleton.mp hmem
      exact h.not_new hkey rfl
  | subscription _ _ _ => exact absurd hmem List.not_mem_nil
  | nothing _ _ _ => exact absurd hmem List.not_mem_nil

theorem told_events_subscribed (h : Handling w asked started answered p s next)
    (hkey : key ∈ s.client.subscriptions) :
    next.told.filter (fun call => call.1 = key) =
      ((next.replies.take next.handled).map callOf).filter fun call => call.1 = key := by
  rw [h.calls_eq, List.filter_append, ← h.told.told_events key hkey]
  cases h.called with
  | operation hregistered htold => rw [htold, List.filter_append]
  | subscription _ _ htold => rw [htold, List.filter_append]
  | nothing _ hsubscribed htold =>
      have hother : p.correlationId ≠ key := by
        rintro rfl
        exact hsubscribed hkey
      rw [htold, filter_key_eq_nil (not_called hother), List.append_nil]

theorem told_events_new (h : Handling w asked started answered p s next) (hkey : s.New key) :
    next.told.filter (fun call => call.1 = key) =
      ((next.replies.take next.handled).map callOf).filter fun call => call.1 = key := by
  rw [filter_key_eq_nil (h.new_notTold hkey), h.calls_eq, List.filter_append,
    filter_key_eq_nil (Told.new_notHandled h.known hkey),
    filter_key_eq_nil (not_called (h.not_new hkey)), List.append_nil]

/-- A call is for a registered operation, or for a subscription, and tells it the package
that is handled. -/
theorem toTold (h : Handling w asked started answered p s next) : Told next := by
  constructor
  · rw [h.handled_eq, h.acts.replies_eq]
    exact (List.getElem?_eq_some_iff.mp h.is_next).1
  · exact fun q hq hstarted => h.handled_answered hq hstarted
  · exact h.told_order
  · intro key hkey
    rw [h.acts.requests_eq, List.map_append]
    exact List.mem_append_left _ (h.told_asked hkey)
  · intro key hkey
    rw [h.acts.started_eq, List.mem_append] at hkey
    rcases hkey with hold | hstarted
    · exact h.told_once_started hold
    · rw [List.count_eq_zero_of_not_mem (h.new_notTold (h.started_isNew hstarted))]
      exact Nat.zero_le 1
  · intro key hkey
    rw [h.acts.started_eq, List.mem_append] at hkey
    rcases hkey with hold | hstarted
    · exact h.told_answers_started hold
    · have hnew := h.started_isNew hstarted
      exact iff_of_false (h.new_notAnswered hnew) (h.new_notTold hnew)
  · intro key hkey
    rcases h.acts.subscribed key hkey with hold | ⟨hnew, _, _⟩
    · exact h.told_events_subscribed hold
    · exact h.told_events_new hnew

end Handling

end Session
end EventStoreClient
