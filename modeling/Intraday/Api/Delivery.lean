import Intraday.Api.Live

/-!
# Intraday.Api.Delivery — which connections deliver everything

What a connection will have sent in the end is its course: the signals sent so far and what
lies ahead of the loop. The steps of the loop keep the course (`Undisturbed`), and by going
on the loop sends all of it (`delivered_goOn`). So only two steps decide: an append, which
is on the course from then on or never, and a poll that fails, which without a cursor drops
what it has in hand.

In every run the course is in the order of the stream and has no entry twice
(`LiveInv.inOrder`).
-/

namespace Intraday.Api

open Intraday.Core Intraday.Lib Intraday.Lib.RedisStore
open Intraday.Lib.RedisStore.Store (Ordered filter_before_of_getLast? ordered_xadd
  xread_xadd_of_nil xadd_streams_self)

/-! ## Invariant -/

/-- The loop is at a place of the stream: before it `front`, which ends at the cursor if there
is one, then what it has in hand, then `rest`. -/
structure Placed (s : Live) (front rest : List Item) : Prop where
  split : s.items = front ++ s.phase.inHand ++ rest
  cursor : ∀ id, s.lastId = some id → front.getLast?.map Prod.fst = some id

/-- What holds of a connection at any time. -/
structure LiveInv (store : Store) (s : Live) : Prop where
  ordered : Ordered s.entries
  backlog : (store.streams signalRedisStream).length ≤ s.items.length
  placed : ∃ front rest, Placed s front rest
  inHand_nil : s.phase.inHand = [] → s.phase = .idle ∨ ∃ after, s.phase = .blocked after
  blocked : ∀ after, s.phase = .blocked after → s.Waits after
  inOrder : s.course.Sublist (s.sinceAccept store)

variable {store : Store} {s : Live} {front rest : List Item}

/-- The rest of the stream, read from the last item before it. -/
theorem filter_before_last (hordered : Ordered s.entries) (hsplit : s.items = front ++ rest)
    {id : EntryId} (hlast : front.getLast?.map Prod.fst = some id) :
    s.items.filter (fun item => decide (id.Before item.1)) = rest := by
  have hitems : s.items.Pairwise fun x y => x.1.Before y.1 := List.pairwise_map.mpr hordered
  rw [hsplit] at hitems ⊢
  exact filter_before_of_getLast? hitems hlast

/-- What lies ahead, by the place in the stream. -/
theorem ahead_eq (hplaced : Placed s front rest) (hordered : Ordered s.entries) :
    s.ahead = if s.lastId = none ∧ s.phase.inHand = [] then [] else s.phase.inHand ++ rest := by
  by_cases hhand : s.phase.inHand = []
  · -- nothing in hand: the cursor, if there is one, decides
    have hreach : s.reach = s.lastId := by rw [Live.reach, hhand]; rfl
    have hsplit : s.items = front ++ rest := by
      rw [hplaced.split, hhand, List.append_nil]
    rw [Live.ahead, hreach, hhand]
    cases hlast : s.lastId with
    | none => simp
    | some id => simp [filter_before_last hordered hsplit (hplaced.cursor id hlast)]
  · -- the cursor will be at the last item in hand
    rcases Option.isSome_iff_exists.mp (List.getLast?_isSome.mpr hhand) with ⟨last, hlast⟩
    have hreach : s.reach = some last.1 := by rw [Live.reach, hlast]; rfl
    have hfront : (front ++ s.phase.inHand).getLast?.map Prod.fst = some last.1 := by
      rw [List.getLast?_append, hlast]
      rfl
    rw [Live.ahead, hreach, Option.elim_some,
      filter_before_last hordered hplaced.split hfront, if_neg fun h => hhand h.2]

/-- What lies ahead depends on what is in hand, the cursor and the stream. -/
theorem ahead_congr {s' : Live} (hhand : s'.phase.inHand = s.phase.inHand)
    (hcursor : s'.lastId = s.lastId) (hitems : s'.items = s.items) : s'.ahead = s.ahead := by
  rw [Live.ahead, Live.ahead, Live.reach, Live.reach, hhand, hcursor, hitems]

/-! ## The steps -/

variable {s' : Live}

/-- A step that leaves the stream alone keeps the invariant if it keeps a place in the
stream and adds nothing to the course. -/
theorem inv_of_entries_eq (hinv : LiveInv store s) (hentries : s'.entries = s.entries)
    (hplaced : Placed s' front rest)
    (hnil : s'.phase.inHand = [] → s'.phase = .idle ∨ ∃ after, s'.phase = .blocked after)
    (hblocked : ∀ after, s'.phase = .blocked after → s'.Waits after)
    (hcourse : s'.course.Sublist s.course) : LiveInv store s' := by
  have hitems : s'.items = s.items := by rw [Live.items, Live.items, hentries]
  refine ⟨?_, ?_, ⟨front, rest, hplaced⟩, hnil, hblocked, ?_⟩
  · rw [hentries]
    exact hinv.ordered
  · rw [hitems]
    exact hinv.backlog
  · rw [Live.sinceAccept, hitems]
    exact hcourse.trans hinv.inOrder

/-- Steps that only change where the loop is. -/
theorem step_same_hand (hinv : LiveInv store s) (hentries : s'.entries = s.entries)
    (hhand : s'.phase.inHand = s.phase.inHand) (hcursor : s'.lastId = s.lastId)
    (hdelivered : s'.delivered = s.delivered)
    (hnil : s'.phase.inHand = [] → s'.phase = .idle ∨ ∃ after, s'.phase = .blocked after)
    (hblocked : ∀ after, s'.phase = .blocked after → s'.Waits after) :
    LiveInv store s' ∧ s'.course = s.course := by
  have hitems : s'.items = s.items := by rw [Live.items, Live.items, hentries]
  have hcourse : s'.course = s.course := by
    rw [Live.course, Live.course, hdelivered, ahead_congr hhand hcursor hitems]
  rcases hinv.placed with ⟨front, rest, hplaced⟩
  have hplaced' : Placed s' front rest := by
    refine ⟨?_, ?_⟩
    · rw [hitems, hhand]
      exact hplaced.split
    · rw [hcursor]
      exact hplaced.cursor
  refine ⟨inv_of_entries_eq hinv hentries hplaced' hnil hblocked ?_, hcourse⟩
  rw [hcourse]

theorem step_tick (hinv : LiveInv store s) (clock : ℚ) (serverMs : ℕ) :
    LiveInv store (live.next s (.tick clock serverMs)) ∧
      (live.next s (.tick clock serverMs)).course = s.course := by
  refine step_same_hand hinv rfl rfl rfl rfl hinv.inHand_nil ?_
  intro after hafter
  have hwaits := hinv.blocked after hafter
  exact ⟨hwaits.nothing, hwaits.known, hwaits.cursor⟩

theorem step_ping (hinv : LiveInv store s) (hidle : s.phase = .idle) :
    LiveInv store s.ping ∧ s.ping.course = s.course := by
  rw [Live.ping]
  split
  · refine step_same_hand hinv rfl rfl rfl ?_ hinv.inHand_nil ?_
    · simp [Live.delivered, sentItem?]
    · intro after hafter
      exact nomatch hidle.symm.trans hafter
  · exact ⟨hinv, rfl⟩

/-- Back to the head of the loop, with nothing read. -/
theorem step_unblocked (hinv : LiveInv store s) {after : Option EntryId}
    (hphase : s.phase = .blocked after) :
    LiveInv store { s with phase := .idle } ∧
      ({ s with phase := .idle } : Live).course = s.course := by
  refine step_same_hand hinv rfl ?_ rfl rfl (fun _ => Or.inl rfl) ?_
  · rw [hphase]
    rfl
  · intro after hafter
    exact nomatch hafter

theorem map_xread (id : EntryId) (count : ℕ) :
    (s.store.xread signalRedisStream (some id) count).map entryItem =
      (s.items.filter fun item => decide (id.Before item.1)).take count := by
  rw [Store.xread, Live.items, List.map_take, List.filter_map]
  rfl

/-- The end of the stream, as `$` names it, has nothing after it. -/
theorem waits_of_dollar (hordered : Ordered s.entries) (hcursor : s.lastId = none) :
    s.Waits (s.store.lastId signalRedisStream) := by
  have hlast : s.store.lastId signalRedisStream = s.entries.getLast?.map (·.id) := rfl
  refine ⟨?_, ?_, ?_⟩
  · rw [Store.xread, hlast]
    cases hend : s.entries.getLast? with
    | none =>
        have hempty : s.store.streams signalRedisStream = [] := List.getLast?_eq_none_iff.mp hend
        simp [hempty]
    | some last =>
        have hordered' : Ordered (s.entries ++ []) := by
          rw [List.append_nil]
          exact hordered
        have hnone := filter_before_of_getLast? hordered' (congrArg (Option.map Entry.id) hend)
        rw [List.append_nil] at hnone
        exact List.take_eq_nil_iff.mpr (Or.inr hnone)
  · intro id hid
    rw [hlast, Option.map_eq_some_iff] at hid
    rcases hid with ⟨last, hend, rfl⟩
    exact ⟨last, List.mem_of_getLast? hend, rfl⟩
  · intro id hid
    rw [hcursor] at hid
    cases hid

/-- A poll reads the next batch of what lies ahead, or waits for it. -/
theorem step_xread (hinv : LiveInv store s) (hidle : s.phase = .idle) :
    LiveInv store s.xread ∧ s.xread.course = s.course := by
  have hhand : s.phase.inHand = [] := by rw [hidle]; rfl
  rcases hinv.placed with ⟨front, rest, hplaced⟩
  have hsplit : s.items = front ++ rest := by
    rw [hplaced.split, hhand, List.append_nil]
  cases hcursor : s.lastId with
  | none =>
      -- without a cursor nothing lies ahead, before the call and after it
      have hread : s.xread =
          { s with phase := .blocked (s.store.lastId signalRedisStream) } := by
        simp only [Live.xread, hcursor]
      rw [hread]
      refine step_same_hand hinv rfl hhand.symm rfl rfl (fun _ => Or.inr ⟨_, rfl⟩) ?_
      intro after hafter
      have hwaits := waits_of_dollar hinv.ordered hcursor
      rw [← Phase.blocked.inj hafter]
      exact ⟨hwaits.nothing, hwaits.known, hwaits.cursor⟩
  | some id =>
      have hlast := hplaced.cursor id hcursor
      have hrest := filter_before_last hinv.ordered hsplit hlast
      have hbatch := map_xread (s := s) id 10
      rw [hrest] at hbatch
      cases hfound : s.store.xread signalRedisStream (some id) 10 with
      | nil =>
          have hread : s.xread = { s with phase := .blocked (some id) } := by
            simp only [Live.xread, hcursor, hfound]
          rw [hread]
          refine step_same_hand hinv rfl hhand.symm rfl rfl (fun _ => Or.inr ⟨_, rfl⟩) ?_
          intro after hafter
          rw [← Phase.blocked.inj hafter]
          refine ⟨hfound, ?_, fun id' hid' => hcursor.symm.trans hid'⟩
          intro id' hid'
          rw [← Option.some.inj hid']
          -- the cursor is the id of an entry
          rcases Option.map_eq_some_iff.mp hlast with ⟨item, hitem, rfl⟩
          have hmem : item ∈ s.items := by
            rw [hsplit]
            exact List.mem_append_left _ (List.mem_of_getLast? hitem)
          rcases List.mem_map.mp hmem with ⟨e, he, rfl⟩
          exact ⟨e, he, rfl⟩
      | cons e es =>
          -- the first ten of the rest move into the hand
          rw [hfound] at hbatch
          have hread : s.xread = { s with phase := .replied (e :: es) } := by
            simp only [Live.xread, hcursor, hfound]
          rw [hread]
          have hplaced' : Placed { s with phase := .replied (e :: es) } front (rest.drop 10) := by
            refine ⟨?_, hplaced.cursor⟩
            show s.items = front ++ (e :: es).map entryItem ++ rest.drop 10
            rw [hbatch, List.append_assoc, List.take_append_drop, hsplit]
          have hahead : s.ahead = rest := by
            have hfollows : ¬ (s.lastId = none ∧ s.phase.inHand = []) := by simp [hcursor]
            rw [ahead_eq hplaced hinv.ordered, if_neg hfollows, hhand, List.nil_append]
          have hahead' : ({ s with phase := .replied (e :: es) } : Live).ahead = rest := by
            rw [ahead_eq hplaced' hinv.ordered, if_neg fun h => nomatch h.2]
            show (e :: es).map entryItem ++ rest.drop 10 = rest
            rw [hbatch, List.take_append_drop]
          have hcourse : ({ s with phase := .replied (e :: es) } : Live).course = s.course :=
            congrArg (s.delivered ++ ·) (hahead'.trans hahead.symm)
          refine ⟨inv_of_entries_eq hinv rfl hplaced' (fun h => nomatch h)
            (fun _ h => nomatch h) ?_, hcourse⟩
          rw [hcourse]

/-- A reply in hand is given up: with a cursor it is read again, without one it is lost. -/
theorem step_dropped (hinv : LiveInv store s) :
    LiveInv store { s with phase := .idle } ∧
      ({ s with phase := .idle } : Live).course =
        if s.lastId = none then s.delivered else s.course := by
  rcases hinv.placed with ⟨front, rest, hplaced⟩
  have hplaced' : Placed { s with phase := .idle } front (s.phase.inHand ++ rest) := by
    refine ⟨?_, hplaced.cursor⟩
    show s.items = front ++ [] ++ (s.phase.inHand ++ rest)
    rw [List.append_nil, ← List.append_assoc, hplaced.split]
  have hahead := ahead_eq hplaced' hinv.ordered
  have hcourse : ({ s with phase := .idle } : Live).course =
      if s.lastId = none then s.delivered else s.course := by
    refine (congrArg (s.delivered ++ ·) hahead).trans ?_
    rw [Live.course, ahead_eq hplaced hinv.ordered]
    show s.delivered ++ (if s.lastId = none ∧ ([] : List Item) = [] then [] else _) = _
    by_cases hcursor : s.lastId = none
    · simp [hcursor]
    · simp [hcursor, Phase.inHand]
  refine ⟨inv_of_entries_eq hinv rfl hplaced' (fun _ => Or.inl rfl) (fun _ h => nomatch h) ?_,
    hcourse⟩
  rw [hcourse]
  split
  · exact List.sublist_append_left ..
  · exact List.Sublist.refl _

/-- The items of a reply that decodes are those of its signals. -/
theorem mapM_decodeEntry_eq_some {entries : List Entry} {signals : List Signal} :
    entries.mapM decodeEntry = some signals ↔
      entries.map entryItem = signals.map signalItem := by
  induction entries generalizing signals with
  | nil => cases signals <;> simp
  | cons e entries ih =>
      cases signals with
      | nil => simp [List.mapM_cons, Option.bind_eq_some_iff]
      | cons signal signals =>
          rw [List.mapM_cons]
          cases hdecode : decodeFields e.fields with
          | none => simp [decodeEntry, entryItem, signalItem, hdecode]
          | some data =>
              simp [decodeEntry, entryItem, signalItem, hdecode, ih, Prod.ext_iff,
                Option.bind_eq_some_iff, and_comm]

/-- A turn of the inner `for` sends the first of what lies ahead. -/
theorem step_send (hinv : LiveInv store s) :
    LiveInv store s.send ∧ s.send.course = s.course := by
  cases hphase : s.phase with
  | sending signals =>
      cases signals with
      | nil =>
          have hsend : s.send = { s with phase := .idle } := by
            simp only [Live.send, hphase]
          rw [hsend]
          refine step_same_hand hinv rfl ?_ rfl rfl (fun _ => Or.inl rfl) (fun _ h => nomatch h)
          rw [hphase]
          rfl
      | cons signal signals =>
          -- the signal moves from the hand to the place before the cursor
          rcases hinv.placed with ⟨front, rest, hplaced⟩
          have hhand : s.phase.inHand = signalItem signal :: signals.map signalItem := by
            rw [hphase]
            rfl
          have hhand' : s.send.phase.inHand = signals.map signalItem := by
            cases signals <;> simp [Live.send, hphase, Phase.inHand]
          have hcursor : s.send.lastId = some signal.1 := by simp [Live.send, hphase]
          have hentries : s.send.entries = s.entries := by simp [Live.send, hphase, Live.entries]
          have hitems : s.send.items = s.items := by rw [Live.items, Live.items, hentries]
          have hdelivered : s.send.delivered = s.delivered ++ [signalItem signal] := by
            simp [Live.send, hphase, Live.delivered, sentItem?, signalItem]
          have hplaced' : Placed s.send (front ++ [signalItem signal]) rest := by
            refine ⟨?_, ?_⟩
            · rw [hitems, hplaced.split, hhand, hhand']
              simp
            · intro id hid
              rw [hcursor, Option.some.injEq] at hid
              simp [← hid, signalItem]
          have hcourse : s.send.course = s.course := by
            have hordered : Ordered s.send.entries := by
              rw [hentries]
              exact hinv.ordered
            rw [Live.course, Live.course, ahead_eq hplaced' hordered,
              ahead_eq hplaced hinv.ordered, hdelivered, hcursor, hhand', hhand]
            simp
          refine ⟨inv_of_entries_eq hinv hentries hplaced' ?_ ?_ ?_, hcourse⟩
          · intro hnil
            rw [hhand', List.map_eq_nil_iff] at hnil
            exact Or.inl (by simp [Live.send, hphase, hnil])
          · intro after hafter
            cases signals <;> simp [Live.send, hphase] at hafter
          · rw [hcourse]
  | _ =>
      have hsend : s.send = s := by simp only [Live.send, hphase]
      rw [hsend]
      exact ⟨hinv, rfl⟩

theorem exists_mapM_decodeEntry {entries : List Entry}
    (hdecodes : ∀ item ∈ entries.map entryItem, item.2.isSome) :
    ∃ signals, entries.mapM decodeEntry = some signals := by
  induction entries with
  | nil => exact ⟨[], rfl⟩
  | cons e entries ih =>
      rw [List.map_cons, List.forall_mem_cons] at hdecodes
      rcases ih hdecodes.2 with ⟨signals, hsignals⟩
      rcases Option.isSome_iff_exists.mp hdecodes.1 with ⟨data, hdata⟩
      have hdata : decodeFields e.fields = some data := hdata
      exact ⟨(e.id, data) :: signals, by simp [List.mapM_cons, decodeEntry, hdata, hsignals]⟩

/-- A step of the loop by itself. It adds nothing to the course, and takes nothing from it
if all of it decodes. -/
structure Undisturbed (store : Store) (s s' : Live) : Prop where
  inv : LiveInv store s'
  items : s'.items = s.items
  delivered : s.delivered.length ≤ s'.delivered.length
  course_le : s'.course <+: s.course
  course : (∀ item ∈ s.course, item.2.isSome) → s'.course = s.course

theorem undisturbed_of_course (hstep : LiveInv store s' ∧ s'.course = s.course)
    (hitems : s'.items = s.items) (hdelivered : s.delivered.length ≤ s'.delivered.length) :
    Undisturbed store s s' :=
  ⟨hstep.1, hitems, hdelivered, hstep.2 ▸ List.prefix_rfl, fun _ => hstep.2⟩

theorem Undisturbed.refl (hinv : LiveInv store s) : Undisturbed store s s :=
  undisturbed_of_course ⟨hinv, rfl⟩ rfl le_rfl

theorem mem_course_of_inHand {item : Item} (hitem : item ∈ s.phase.inHand) : item ∈ s.course :=
  List.mem_append_right _ (List.mem_append_left _ hitem)

/-- A reply that decodes goes on to the client; one that does not is given up. -/
theorem undisturbed_receive (hinv : LiveInv store s) : Undisturbed store s s.receive := by
  cases hphase : s.phase with
  | replied entries =>
      have hhand : s.phase.inHand = entries.map entryItem := by rw [hphase]; rfl
      cases hdecode : entries.mapM decodeEntry with
      | none =>
          have hreceive : s.receive = { s with phase := .idle } := by
            simp only [Live.receive, hphase, hdecode]
          rw [hreceive]
          rcases step_dropped hinv with ⟨hinv', hcourse⟩
          refine ⟨hinv', rfl, le_rfl, ?_, ?_⟩
          · rw [hcourse]
            split
            · exact List.prefix_append ..
            · exact List.prefix_rfl
          · intro hdecodes
            -- what is in hand is on the course, so it decodes
            have hall : ∀ item ∈ entries.map entryItem, item.2.isSome := by
              rw [← hhand]
              exact fun item hitem => hdecodes item (mem_course_of_inHand hitem)
            rcases exists_mapM_decodeEntry hall with ⟨signals, hsignals⟩
            exact nomatch hdecode.symm.trans hsignals
      | some signals =>
          have hreceive : s.receive = { s with phase := .sending signals } := by
            simp only [Live.receive, hphase, hdecode]
          have hsame : ({ s with phase := .sending signals } : Live).phase.inHand =
              s.phase.inHand := by
            rw [hhand]
            exact (mapM_decodeEntry_eq_some.mp hdecode).symm
          rw [hreceive]
          refine undisturbed_of_course ?_ rfl le_rfl
          refine step_same_hand hinv rfl hsame rfl rfl ?_ (fun _ h => nomatch h)
          intro hnil
          -- a reply is never empty
          rw [hsame] at hnil
          rcases hinv.inHand_nil hnil with hidle | ⟨after, hafter⟩
          · exact nomatch hphase.symm.trans hidle
          · exact nomatch hphase.symm.trans hafter
  | _ =>
      have hreceive : s.receive = s := by simp only [Live.receive, hphase]
      rw [hreceive]
      exact Undisturbed.refl hinv

theorem delivered_ping : s.ping.delivered = s.delivered := by
  rw [Live.ping]
  split
  · simp [Live.delivered, sentItem?]
  · rfl

theorem items_ping : s.ping.items = s.items := by
  rw [Live.ping]
  split <;> rfl

theorem phase_ping : s.ping.phase = s.phase := by
  rw [Live.ping]
  split <;> rfl

theorem delivered_xread : s.xread.delivered = s.delivered := by
  rw [Live.xread]
  split
  · rfl
  · split <;> rfl

theorem items_xread : s.xread.items = s.items := by
  rw [Live.xread]
  split
  · rfl
  · split <;> rfl

theorem next_poll_of_idle (hidle : s.phase = .idle) :
    live.next s (.poll false) = s.ping.xread := by
  simp [live, Machine.next, hidle]

theorem next_poll_of_busy (hbusy : s.phase ≠ .idle) (refused : Bool) :
    live.next s (.poll refused) = s := by
  cases hphase : s.phase with
  | idle => exact absurd hphase hbusy
  | _ => simp only [live, Machine.next, hphase]

theorem undisturbed_poll (hinv : LiveInv store s) (refused : Bool) :
    Undisturbed store s (live.next s (.poll refused)) := by
  by_cases hidle : s.phase = .idle
  · have hping := step_ping hinv hidle
    cases refused with
    | true =>
        have hnext : live.next s (.poll true) = s.ping := by simp [live, Machine.next, hidle]
        rw [hnext]
        exact undisturbed_of_course hping items_ping (le_of_eq (by rw [delivered_ping]))
    | false =>
        have hread := step_xread hping.1 (phase_ping.trans hidle)
        rw [next_poll_of_idle hidle]
        refine undisturbed_of_course ⟨hread.1, hread.2.trans hping.2⟩ ?_ (le_of_eq ?_)
        · rw [items_xread, items_ping]
        · rw [delivered_xread, delivered_ping]
  · -- a poll is under way already
    rw [next_poll_of_busy hidle]
    exact Undisturbed.refl hinv

theorem undisturbed_timeout (hinv : LiveInv store s) :
    Undisturbed store s (live.next s .timeout) := by
  cases hphase : s.phase with
  | blocked after =>
      have hnext : live.next s .timeout = { s with phase := .idle } := by
        simp only [live, Machine.next, hphase]
      rw [hnext]
      exact undisturbed_of_course (step_unblocked hinv hphase) rfl le_rfl
  | _ =>
      have hnext : live.next s .timeout = s := by simp only [live, Machine.next, hphase]
      rw [hnext]
      exact Undisturbed.refl hinv

theorem undisturbed_send (hinv : LiveInv store s) : Undisturbed store s s.send := by
  refine undisturbed_of_course (step_send hinv) ?_ ?_
  · rw [Live.send]
    split <;> rfl
  · rw [Live.send]
    split
    · exact le_rfl
    · simp [Live.delivered]
    · exact le_rfl

/-- The steps of the loop by itself, and time. -/
def LiveOp.OfLoop : LiveOp → Prop
  | .xadd _ => False
  | .fail => False
  | _ => True

theorem undisturbed_next (hinv : LiveInv store s) {op : LiveOp} (hop : op.OfLoop) :
    Undisturbed store s (live.next s op) := by
  cases op with
  | xadd fields => exact hop.elim
  | tick clock serverMs => exact undisturbed_of_course (step_tick hinv clock serverMs) rfl le_rfl
  | poll refused => exact undisturbed_poll hinv refused
  | timeout => exact undisturbed_timeout hinv
  | fail => exact hop.elim
  | receive => exact undisturbed_receive hinv
  | send => exact undisturbed_send hinv

theorem Undisturbed.trans {s₁ s₂ s₃ : Live} (h₁ : Undisturbed store s₁ s₂)
    (h₂ : Undisturbed store s₂ s₃) : Undisturbed store s₁ s₃ := by
  refine ⟨h₂.inv, h₂.items.trans h₁.items, h₁.delivered.trans h₂.delivered,
    h₂.course_le.trans h₁.course_le, ?_⟩
  intro hdecodes
  have hsame := h₁.course hdecodes
  rw [← hsame] at hdecodes
  exact (h₂.course hdecodes).trans hsame

theorem undisturbed_run (hinv : LiveInv store s) {ops : List LiveOp}
    (hops : ∀ op ∈ ops, op.OfLoop) : Undisturbed store s (live.run s ops) := by
  induction ops generalizing s with
  | nil => exact Undisturbed.refl hinv
  | cons op ops ih =>
      rw [List.forall_mem_cons] at hops
      have hnext := undisturbed_next hinv hops.1
      exact hnext.trans (ih hnext.inv hops.2)

theorem turn_ofLoop : ∀ op ∈ turn, op.OfLoop := by
  simp [turn, LiveOp.OfLoop]

theorem undisturbed_goOn (hinv : LiveInv store s) (n : ℕ) : Undisturbed store s (goOn s n) := by
  induction n generalizing s with
  | zero => exact Undisturbed.refl hinv
  | succ n ih =>
      have hturn := undisturbed_run hinv turn_ofLoop
      exact hturn.trans (ih hturn.inv)

/-! ## Undisturbed, the loop sends what lies ahead -/

theorem ahead_of_blocked (hinv : LiveInv store s) {after : Option EntryId}
    (hphase : s.phase = .blocked after) : s.ahead = [] := by
  have hwaits := hinv.blocked after hphase
  have hreach : s.reach = s.lastId := by rw [Live.reach, hphase]; rfl
  rw [Live.ahead, hreach, hphase]
  cases hcursor : s.lastId with
  | none => rfl
  | some id =>
      have hbatch := map_xread (s := s) id 10
      rw [← hwaits.cursor id hcursor, hwaits.nothing, List.map_nil, eq_comm,
        List.take_eq_nil_iff] at hbatch
      exact hbatch.resolve_left (by decide)

theorem delivered_poll : (live.next s (.poll false)).delivered = s.delivered := by
  by_cases hidle : s.phase = .idle
  · rw [next_poll_of_idle hidle, delivered_xread, delivered_ping]
  · rw [next_poll_of_busy hidle]

theorem phase_poll_ne_idle : (live.next s (.poll false)).phase ≠ .idle := by
  by_cases hidle : s.phase = .idle
  · rw [next_poll_of_idle hidle, Live.xread]
    split
    · exact nofun
    · split <;> exact nofun
  · rw [next_poll_of_busy hidle]
    exact hidle

theorem timeout_of_inHand (hhand : s.phase.inHand ≠ []) : live.next s .timeout = s := by
  cases hphase : s.phase with
  | blocked after => exact absurd (by rw [hphase]; rfl) hhand
  | _ => simp only [live, Machine.next, hphase]

/-- With something in hand that decodes, the loop goes on to send. -/
theorem delivered_lt_send (hdecodes : ∀ item ∈ s.course, item.2.isSome)
    (hhand : s.phase.inHand ≠ []) :
    s.delivered.length < (live.next s .receive).send.delivered.length := by
  have hsend : ∀ {s : Live} {signals : List Signal}, s.phase = .sending signals →
      s.phase.inHand ≠ [] → s.delivered.length < s.send.delivered.length := by
    intro s signals hphase hhand
    cases signals with
    | nil => exact absurd (by rw [hphase]; rfl) hhand
    | cons signal signals => simp [Live.send, hphase, Live.delivered, sentItem?]
  cases hphase : s.phase with
  | idle => exact absurd (by rw [hphase]; rfl) hhand
  | blocked after => exact absurd (by rw [hphase]; rfl) hhand
  | sending signals =>
      have hreceive : live.next s .receive = s := by
        simp only [live, Machine.next, Live.receive, hphase]
      rw [hreceive]
      exact hsend hphase hhand
  | replied entries =>
      have hentries : s.phase.inHand = entries.map entryItem := by rw [hphase]; rfl
      have hall : ∀ item ∈ entries.map entryItem, item.2.isSome := by
        rw [← hentries]
        exact fun item hitem => hdecodes item (mem_course_of_inHand hitem)
      rcases exists_mapM_decodeEntry hall with ⟨signals, hsignals⟩
      have hreceive : live.next s .receive = { s with phase := .sending signals } := by
        simp only [live, Machine.next, Live.receive, hphase, hsignals]
      have hhand' : signals.map signalItem ≠ [] := by
        rw [← mapM_decodeEntry_eq_some.mp hsignals, ← hentries]
        exact hhand
      rw [hreceive]
      exact @hsend { s with phase := .sending signals } signals rfl hhand'

/-- A turn sends something, if anything lies ahead. -/
theorem delivered_lt_turn (hinv : LiveInv store s)
    (hdecodes : ∀ item ∈ s.course, item.2.isSome) (hahead : s.ahead ≠ []) :
    s.delivered.length < (live.run s turn).delivered.length := by
  have hpoll := undisturbed_poll hinv false
  have hcourse := hpoll.course hdecodes
  have hhand : (live.next s (.poll false)).phase.inHand ≠ [] := by
    intro hnil
    rcases hpoll.inv.inHand_nil hnil with hidle | ⟨after, hblocked⟩
    · exact phase_poll_ne_idle hidle
    · -- a poll that waits has nothing before it
      have hnone := ahead_of_blocked hpoll.inv hblocked
      rw [Live.course, Live.course, delivered_poll, hnone] at hcourse
      exact hahead (List.append_cancel_left hcourse).symm
  rw [← hcourse] at hdecodes
  have hsend := delivered_lt_send hdecodes hhand
  have hreceive := undisturbed_receive hpoll.inv
  have hrest : ∀ op ∈ List.replicate 9 LiveOp.send, op.OfLoop := by simp [LiveOp.OfLoop]
  have hsends := undisturbed_run (undisturbed_send hreceive.inv).inv hrest
  have hturn : live.run s turn =
      live.run (live.next (live.next (live.next s (.poll false)) .timeout) .receive).send
        (List.replicate 9 .send) := rfl
  rw [hturn, timeout_of_inHand hhand]
  rw [delivered_poll] at hsend
  exact hsend.trans_le hsends.delivered

/-- Everything on the course is sent once nothing lies ahead, which takes at most a turn for
each item. -/
theorem delivered_goOn (hinv : LiveInv store s) (hdecodes : ∀ item ∈ s.course, item.2.isSome)
    {n : ℕ} (hn : s.ahead.length ≤ n) : (goOn s n).delivered = s.course := by
  induction n generalizing s with
  | zero =>
      have hnone := List.eq_nil_of_length_eq_zero (Nat.le_zero.mp hn)
      rw [Live.course, hnone, List.append_nil]
      rfl
  | succ n ih =>
      -- the course stays and the signals sent grow, so less lies ahead
      have hturn := undisturbed_run hinv turn_ofLoop
      have hsame := hturn.course hdecodes
      have hlength := congrArg List.length hsame
      rw [Live.course, Live.course, List.length_append, List.length_append] at hlength
      refine (ih hturn.inv ?_ ?_).trans hsame
      · rw [hsame]
        exact hdecodes
      · by_cases hahead : s.ahead = []
        · have hmono := hturn.delivered
          rw [hahead, List.length_nil] at hlength
          omega
        · have hlt := delivered_lt_turn hinv hdecodes hahead
          omega

/-- The connection sends the whole stream since it was accepted exactly if that is its course,
and all of it decodes. -/
theorem complete_iff (hinv : LiveInv store s) :
    Complete store s ↔
      s.course = s.sinceAccept store ∧ ∀ item ∈ s.sinceAccept store, item.2.isSome := by
  constructor
  · rintro ⟨n, hn⟩
    -- what is sent is on the course, and the course is in order: so it is all of it
    have hgoOn := undisturbed_goOn hinv n
    have hdelivered := hn n le_rfl
    have hprefix : s.sinceAccept store <+: s.course := by
      rw [← hdelivered]
      exact (List.prefix_append ..).trans hgoOn.course_le
    refine ⟨hinv.inOrder.antisymm hprefix.sublist, ?_⟩
    rw [← hdelivered]
    intro item hitem
    rcases List.mem_filterMap.mp hitem with ⟨message, -, hmessage⟩
    cases message with
    | ping ts => exact nomatch hmessage
    | signal id data ts =>
        rw [← Option.some.inj hmessage]
        rfl
  · rintro ⟨hcourse, hdecodes⟩
    rw [← hcourse] at hdecodes
    refine ⟨s.ahead.length, ?_⟩
    intro m hm
    rw [delivered_goOn hinv hdecodes hm, hcourse]

/-! ## Appends and failures -/

/-- The connection takes notice of an entry appended now: it has a cursor, or it is not
between two polls. -/
def Follows (s : Live) : Prop := s.lastId = none → s.phase ≠ .idle

/-- The new item. -/
def newItem (s : Live) (fields : Fields) : Item :=
  (s.store.nextId signalRedisStream, decodeFields fields)

theorem items_xadd (fields : Fields) :
    (s.xadd fields).items = s.items ++ [newItem s fields] := by
  show ((s.store.xadd signalRedisStream fields).streams signalRedisStream).map entryItem = _
  rw [xadd_streams_self, List.map_append]
  rfl

theorem sinceAccept_xadd (hinv : LiveInv store s) (fields : Fields) :
    (s.xadd fields).sinceAccept store = s.sinceAccept store ++ [newItem s fields] := by
  rw [Live.sinceAccept, items_xadd, List.drop_append_of_le_length hinv.backlog]
  rfl

/-- A new entry keeps the invariant if it keeps a place in the stream, and the course gets
the new item or nothing. -/
theorem inv_xadd (hinv : LiveInv store s) {fields : Fields}
    (hplaced : Placed (s.xadd fields) front rest)
    (hnil : (s.xadd fields).phase.inHand = [] → (s.xadd fields).phase = .idle)
    (hblocked : ∀ after, (s.xadd fields).phase ≠ .blocked after)
    (hcourse : (s.xadd fields).course.Sublist (s.course ++ [newItem s fields])) :
    LiveInv store (s.xadd fields) := by
  refine ⟨ordered_xadd hinv.ordered fields, ?_, ⟨front, rest, hplaced⟩,
    fun h => Or.inl (hnil h), fun after h => absurd h (hblocked after), ?_⟩
  · rw [items_xadd, List.length_append]
    exact hinv.backlog.trans (Nat.le_add_right ..)
  · rw [sinceAccept_xadd hinv]
    exact hcourse.trans (hinv.inOrder.append_right _)

/-- A read that waits gets the new entry. -/
theorem step_xadd_blocked (hinv : LiveInv store s) {after : Option EntryId}
    (hphase : s.phase = .blocked after) (fields : Fields) :
    LiveInv store (s.xadd fields) ∧
      (s.xadd fields).course = s.course ++ [newItem s fields] := by
  have hwaits := hinv.blocked after hphase
  have hread := xread_xadd_of_nil hinv.ordered (by decide) hwaits.known hwaits.nothing fields
  have hphase' : (s.xadd fields).phase =
      .replied [{ id := s.store.nextId signalRedisStream, fields := fields }] := by
    simp only [Live.xadd, hphase, hread]
  have hhand' : (s.xadd fields).phase.inHand = [newItem s fields] := by
    rw [hphase']
    rfl
  have hnone := ahead_of_blocked hinv hphase
  rcases hinv.placed with ⟨front, rest, hplaced⟩
  have hplaced' : Placed (s.xadd fields) s.items [] := by
    refine ⟨?_, ?_⟩
    · rw [items_xadd, hhand', List.append_nil]
    · intro id hid
      -- with a cursor, it is at the end of the stream
      have hid : s.lastId = some id := hid
      have hrest : rest = [] := by
        have hahead := ahead_eq hplaced hinv.ordered
        rw [hnone, hphase, hid] at hahead
        simpa [Phase.inHand] using hahead.symm
      rw [hplaced.split, hphase, hrest]
      simpa [Phase.inHand] using hplaced.cursor id hid
  have hahead' : (s.xadd fields).ahead = [newItem s fields] := by
    rw [ahead_eq hplaced' (ordered_xadd hinv.ordered fields), hhand', List.append_nil,
      if_neg fun h => nomatch h.2]
  have hcourse : (s.xadd fields).course = s.course ++ [newItem s fields] := by
    rw [Live.course, Live.course, hahead', hnone, List.append_nil]
    rfl
  refine ⟨inv_xadd hinv hplaced' ?_ ?_ ?_, hcourse⟩
  · rw [hhand']
    exact fun h => nomatch h
  · rw [hphase']
    exact fun _ h => nomatch h
  · rw [hcourse]

/-- Elsewhere the new entry comes after the rest of the stream. -/
theorem step_xadd_elsewhere (hinv : LiveInv store s)
    (hphase : ∀ after, s.phase ≠ .blocked after) (fields : Fields) :
    LiveInv store (s.xadd fields) ∧
      (Follows s → (s.xadd fields).course = s.course ++ [newItem s fields]) ∧
      (¬ Follows s → (s.xadd fields).course = s.course) := by
  have hphase' : (s.xadd fields).phase = s.phase := by
    rw [Live.xadd]
    cases hcase : s.phase with
    | blocked after => exact absurd hcase (hphase after)
    | _ => rfl
  rcases hinv.placed with ⟨front, rest, hplaced⟩
  have hplaced' : Placed (s.xadd fields) front (rest ++ [newItem s fields]) := by
    refine ⟨?_, hplaced.cursor⟩
    rw [items_xadd, hphase', hplaced.split]
    simp
  have hahead := ahead_eq hplaced hinv.ordered
  have hahead' := ahead_eq hplaced' (ordered_xadd hinv.ordered fields)
  rw [hphase', show (s.xadd fields).lastId = s.lastId from rfl] at hahead'
  have hidle : s.phase.inHand = [] ↔ s.phase = .idle := by
    constructor
    · intro hnil
      rcases hinv.inHand_nil hnil with hidle | ⟨after, hblocked⟩
      · exact hidle
      · exact absurd hblocked (hphase after)
    · intro hidle
      rw [hidle]
      rfl
  have hfollows : Follows s → (s.xadd fields).course = s.course ++ [newItem s fields] := by
    intro hfollows
    have hcond : ¬ (s.lastId = none ∧ s.phase.inHand = []) :=
      fun h => hfollows h.1 (hidle.mp h.2)
    rw [Live.course, Live.course, hahead, hahead', if_neg hcond, if_neg hcond,
      List.append_assoc, List.append_assoc]
    rfl
  have hmisses : ¬ Follows s → (s.xadd fields).course = s.course := by
    intro hmisses
    rw [Follows, Classical.not_imp, not_not] at hmisses
    have hcond : s.lastId = none ∧ s.phase.inHand = [] := ⟨hmisses.1, hidle.mpr hmisses.2⟩
    rw [Live.course, Live.course, hahead, hahead', if_pos hcond, if_pos hcond]
    rfl
  refine ⟨inv_xadd hinv hplaced' ?_ ?_ ?_, hfollows, hmisses⟩
  · rw [hphase']
    exact hidle.mp
  · rw [hphase']
    exact hphase
  · by_cases hcase : Follows s
    · rw [hfollows hcase]
    · rw [hmisses hcase]
      exact List.sublist_append_left ..

theorem step_xadd (hinv : LiveInv store s) (fields : Fields) :
    LiveInv store (s.xadd fields) ∧
      (Follows s → (s.xadd fields).course = s.course ++ [newItem s fields]) ∧
      (¬ Follows s → (s.xadd fields).course = s.course) := by
  cases hphase : s.phase with
  | blocked after =>
      rcases step_xadd_blocked hinv hphase fields with ⟨hinv', hcourse⟩
      have hfollows : Follows s := fun _ hidle => nomatch hphase.symm.trans hidle
      exact ⟨hinv', fun _ => hcourse, fun h => absurd hfollows h⟩
  | _ =>
      refine step_xadd_elsewhere hinv ?_ fields
      rw [hphase]
      exact fun _ h => nomatch h

/-- A failing poll gives up what it has read; without a cursor it is lost. -/
theorem step_fail (hinv : LiveInv store s) :
    LiveInv store s.fail ∧ s.fail.items = s.items ∧
      ((s.lastId = none → ∀ entries, s.phase ≠ .replied entries) → s.fail.course = s.course) ∧
      ∀ entries, s.lastId = none → s.phase = .replied entries →
        s.fail.course = s.delivered := by
  cases hphase : s.phase with
  | blocked after =>
      have hfail : s.fail = { s with phase := .idle } := by simp only [Live.fail, hphase]
      rw [hfail]
      rcases step_unblocked hinv hphase with ⟨hinv', hcourse⟩
      exact ⟨hinv', rfl, fun _ => hcourse, fun _ _ h => nomatch h⟩
  | replied entries =>
      have hfail : s.fail = { s with phase := .idle } := by simp only [Live.fail, hphase]
      rw [hfail]
      rcases step_dropped hinv with ⟨hinv', hcourse⟩
      refine ⟨hinv', rfl, ?_, ?_⟩
      · intro hsafe
        rw [hcourse, if_neg fun h => hsafe h entries rfl]
      · intro _ hcursor _
        rw [hcourse, if_pos hcursor]
  | _ =>
      have hfail : s.fail = s := by simp only [Live.fail, hphase]
      rw [hfail]
      exact ⟨hinv, rfl, fun _ => rfl, fun _ _ h => nomatch h⟩

theorem inv_next (hinv : LiveInv store s) (op : LiveOp) : LiveInv store (live.next s op) := by
  cases op with
  | xadd fields => exact (step_xadd hinv fields).1
  | fail => exact (step_fail hinv).1
  | _ =>
      refine (undisturbed_next hinv ?_).inv
      trivial

theorem inv_accept (hordered : Ordered (store.streams signalRedisStream)) (clock : ℚ) :
    LiveInv store (Live.accept store clock) := by
  refine ⟨hordered, ?_, ⟨(Live.accept store clock).items, [], ?_, fun _ h => nomatch h⟩,
    fun _ => Or.inl rfl, (fun _ h => nomatch h), List.nil_sublist _⟩
  · exact le_of_eq (List.length_map _).symm
  · exact ((List.append_nil _).trans (List.append_nil _)).symm

/-- A step that loses nothing: an entry decodes and is appended when the connection follows
the stream, and no poll fails with a reply in hand while there is no cursor. -/
def Lossless (s : Live) : LiveOp → Prop
  | .xadd fields => (decodeFields fields).isSome ∧ Follows s
  | .fail => s.lastId = none → ∀ entries, s.phase ≠ .replied entries
  | _ => True

/-- One step keeps the connection complete exactly if it loses nothing. -/
theorem complete_next_iff (hinv : LiveInv store s) (hcomplete : Complete store s) (op : LiveOp) :
    Complete store (live.next s op) ↔ Lossless s op := by
  rcases (complete_iff hinv).mp hcomplete with ⟨hcourse, hdecodes⟩
  rw [complete_iff (inv_next hinv op)]
  have hloop : op.OfLoop → ((live.next s op).course = (live.next s op).sinceAccept store ∧
      ∀ item ∈ (live.next s op).sinceAccept store, item.2.isSome) := by
    intro hop
    have hstep := undisturbed_next hinv hop
    have hsince : (live.next s op).sinceAccept store = s.sinceAccept store := by
      rw [Live.sinceAccept, Live.sinceAccept, hstep.items]
    rw [← hcourse] at hdecodes
    rw [hsince, hstep.course hdecodes, ← hcourse]
    exact ⟨rfl, hdecodes⟩
  cases op with
  | xadd fields =>
      have hsince : (live.next s (.xadd fields)).sinceAccept store =
          s.sinceAccept store ++ [newItem s fields] := sinceAccept_xadd hinv fields
      rcases step_xadd hinv fields with ⟨-, hfollows, hmisses⟩
      have hall : (∀ item ∈ s.sinceAccept store ++ [newItem s fields], item.2.isSome) ↔
          (decodeFields fields).isSome := by
        rw [List.forall_mem_append, List.forall_mem_singleton]
        exact and_iff_right hdecodes
      rw [hsince, hall, Lossless, and_comm]
      refine and_congr_right fun _ => ?_
      constructor
      · intro hsame
        by_contra hcase
        -- the course did not get the new item
        have hlength := congrArg List.length ((hmisses hcase).symm.trans hsame)
        rw [hcourse, List.length_append] at hlength
        simp at hlength
      · intro hcase
        exact (hfollows hcase).trans (by rw [hcourse])
  | fail =>
      rcases step_fail hinv with ⟨-, hitems, hkeeps, hloses⟩
      have hsince : (live.next s .fail).sinceAccept store = s.sinceAccept store := by
        rw [Live.sinceAccept, Live.sinceAccept]
        exact congrArg _ hitems
      rw [hsince, Lossless]
      constructor
      · rintro ⟨hsame, -⟩ hcursor entries hreplied
        -- what was in hand is not on the course any more
        have hshort := (hloses entries hcursor hreplied).symm.trans (hsame.trans hcourse.symm)
        rw [Live.course, List.self_eq_append_right, Live.ahead, List.append_eq_nil_iff] at hshort
        rcases hinv.inHand_nil hshort.1 with hidle | ⟨after, hblocked⟩
        · exact nomatch hreplied.symm.trans hidle
        · exact nomatch hreplied.symm.trans hblocked
      · intro hsafe
        exact ⟨(hkeeps hsafe).trans hcourse, hdecodes⟩
  | _ => exact iff_of_true (hloop trivial) trivial

/-! ## Whole connections -/

theorem complete_accept (hordered : Ordered (store.streams signalRedisStream)) (clock : ℚ) :
    Complete store (Live.accept store clock) := by
  have hsince : (Live.accept store clock).sinceAccept store = [] := by
    rw [Live.sinceAccept, List.drop_eq_nil_iff]
    exact le_of_eq (List.length_map _)
  rw [complete_iff (inv_accept hordered clock), hsince]
  exact ⟨rfl, fun _ h => nomatch h⟩

/-- A connection sends every entry appended since it was accepted, exactly once and in order,
in exactly those runs in which every entry decodes and is appended while there is a cursor
or a poll under way, and no poll fails with a first reply in hand. -/
theorem live_complete_iff (store : Store) (hordered : Ordered (store.streams signalRedisStream))
    (clock : ℚ) (ops : List LiveOp) :
    (∀ t ∈ live.trans (Live.accept store clock) ops, Complete store t.post) ↔
      ∀ t ∈ live.trans (Live.accept store clock) ops, Lossless t.pre t.op := by
  have hstep : ∀ s op, LiveInv store s → LiveInv store (live.next s op) :=
    fun _ op hinv => inv_next hinv op
  have hexact : ∀ s op, LiveInv store s → Complete store s →
      (Complete store (live.next s op) ↔ Lossless s op) :=
    fun _ op hinv hcomplete => complete_next_iff hinv hcomplete op
  exact live.trans_forall_post_iff hstep hexact (inv_accept hordered clock)
    (complete_accept hordered clock) ops

/-- A server with no signals yet. -/
def freshStore : Store :=
  { nowMs := 1700000000000, strings := fun _ => none, streams := fun _ => [] }

/-- An entry of the stream. -/
def infyFields : Fields := Dict.empty.set "data" "INFY BUY".toByteArray

/-- The first poll waits for the first entry. -/
theorem first_poll (clock : ℚ) :
    live.next (Live.accept freshStore clock) (.poll false) =
      { Live.accept freshStore clock with phase := .blocked none } := by
  have hping : (Live.accept freshStore clock).ping = Live.accept freshStore clock := by
    refine if_neg ?_
    show ¬ (30 : ℚ) ≤ clock - clock
    norm_num
  show (Live.accept freshStore clock).ping.xread = _
  rw [hping]
  rfl

/-- A signal that comes while the first poll waits is sent, and so is one after it. -/
theorem awaited_signals_are_sent :
    Ordered (freshStore.streams signalRedisStream) ∧
      ∀ t ∈ live.trans (Live.accept freshStore 1700000000)
        [.poll false, .xadd infyFields, .xadd infyFields, .receive, .send],
        Complete freshStore t.post := by
  have hordered : Ordered (freshStore.streams signalRedisStream) := List.Pairwise.nil
  refine ⟨hordered, (live_complete_iff freshStore hordered 1700000000 _).mpr ?_⟩
  have hdecodes : (decodeFields infyFields).isSome = true := by decide +kernel
  simp only [Machine.trans_cons, List.forall_mem_cons, first_poll]
  refine ⟨trivial, ⟨hdecodes, ?_⟩, ⟨hdecodes, ?_⟩, trivial, trivial, fun _ h => nomatch h⟩
  · intro _ hidle
    exact nomatch hidle
  · intro _ hidle
    exact nomatch hidle

/-- A signal appended between the first two polls is never sent. -/
theorem signal_between_polls_is_lost :
    ¬ ∀ store : Store, Ordered (store.streams signalRedisStream) → ∀ (clock : ℚ)
        (ops : List LiveOp), ∀ t ∈ live.trans (Live.accept store clock) ops,
      Complete store t.post := by
  intro h
  have hordered : Ordered (freshStore.streams signalRedisStream) := List.Pairwise.nil
  have hall := h freshStore hordered 1700000000 [.poll false, .timeout, .xadd infyFields]
  simp only [Machine.trans_cons, List.forall_mem_cons] at hall
  rcases hall with ⟨-, htimeout, hxadd, -⟩
  have hinv := inv_next (inv_next (inv_accept hordered 1700000000) (.poll false)) .timeout
  have hlossless := (complete_next_iff hinv htimeout (.xadd infyFields)).mp hxadd
  rw [first_poll] at hlossless
  exact hlossless.2 rfl rfl

end Intraday.Api
