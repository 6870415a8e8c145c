import TableGateway.Proofs.Database.Exchange

/-! # Pools that are shared

A pool has several holders.  A `Deed` is what one of them does with the pool or in a transaction it
holds, and `Server.among` runs statements in a transaction while the other holders take turns.

`Interleaved` says that a pool came about by given deeds and given events, each in their order.
Deeds that are done in no transaction but others leave a session alone (`elsewhere_run`), so the
events on it are the given ones (`Interleaved.log`). -/

namespace TableGateway.Database

/-- What a holder does with the pool, or in a transaction. -/
inductive Deed where
  | send (via : Via) (statement : Statement)
  | begin
  | sendWithin (t : Transaction) (via : Via) (statement : Statement)
  | finish (t : Transaction) (control : Control)
  | abandon (t : Transaction)
  | close
  deriving DecidableEq, Repr

/-- The transaction a deed is done in, if it is done in one. -/
def Deed.transaction? : Deed → Option Transaction
  | sendWithin t _ _ | finish t _ | abandon t => some t
  | send _ _ | begin | close => none

variable {σ : Type} (server : Server σ)

/-- Does a deed, whatever is answered. -/
def Deed.run : Deed → Pool σ → Pool σ
  | send via statement, pool => (server.pooled.send via statement pool).2
  | begin, pool => (server.begin pool).2
  | sendWithin t via statement, pool => ((server.within t).send via statement pool).2
  | finish t control, pool => (server.finish control t pool).2
  | abandon t, pool => server.abandon t pool
  | close, pool => Server.close pool

namespace Server

/-- The pool after the first of several turns, each of which is a list of deeds. -/
def turn (turns : List (List Deed)) (pool : Pool σ) : Pool σ :=
  (turns.headD []).foldl (fun pool d => d.run server pool) pool

/-- Runs statements in a transaction, the other holders taking one turn before each. -/
def among (t : Transaction) : Executor (List (List Deed) × Pool σ) where
  send via statement s :=
    let (reply, pool) := (server.within t).send via statement (server.turn s.1 s.2)
    (reply, s.1.tail, pool)

end Server

variable {server} in
/-- A statement is run in the transaction once the other holders have taken their turn. -/
theorem send_among {t : Transaction} {via : Via} {statement : Statement}
    {reply : Except Failure via.Reply} {s u : List (List Deed) × Pool σ}
    (h : (server.among t).send via statement s = (reply, u)) :
    (server.within t).send via statement (server.turn s.1 s.2) = (reply, u.2) ∧
      u.1 = s.1.tail := by
  have hsend : (server.among t).send via statement s =
      (((server.within t).send via statement (server.turn s.1 s.2)).1, s.1.tail,
        ((server.within t).send via statement (server.turn s.1 s.2)).2) := rfl
  rw [hsend] at h
  cases h
  exact ⟨rfl, rfl⟩

/-! ### Other sessions -/

/-- What can be done to a pool without asking for anything on a session. -/
inductive Elsewhere (session : Session) (p : Pool σ) : Pool σ → Prop
  | refl : Elsewhere session p p
  | put {q : Pool σ} {e : Event} :
      Elsewhere session p q → e.session ≠ session → Elsewhere session p (server.put e q)
  | handOut {q : Pool σ} :
      Elsewhere session p q → Elsewhere session p { q with sessions := q.sessions + 1 }
  | close {q : Pool σ} : Elsewhere session p q → Elsewhere session p { q with closed := true }

variable {server} {t : Transaction} {p q r : Pool σ}

namespace Elsewhere

theorem sessions_le {session : Session} (h : Elsewhere server session p q) :
    p.sessions ≤ q.sessions := by
  induction h with
  | refl => exact Nat.le_refl _
  | put _ _ ih => exact ih
  | handOut _ ih => exact Nat.le_succ_of_le ih
  | close _ ih => exact ih

theorem log {session : Session} (h : Elsewhere server session p q) :
    ∃ events, q.log = p.log ++ events ∧ ∀ e ∈ events, e.session ≠ session := by
  induction h with
  | refl => exact ⟨[], (List.append_nil _).symm, List.forall_mem_nil _⟩
  | @put q e _ he ih =>
      obtain ⟨events, hlog, hevents⟩ := ih
      refine ⟨events ++ [e], ?_, ?_⟩
      · rw [← List.append_assoc, ← hlog]
        rfl
      · exact List.forall_mem_append.mpr ⟨hevents, List.forall_mem_singleton.mpr he⟩
  | handOut _ ih => exact ih
  | close _ ih => exact ih

theorem trans {session : Session} (h : Elsewhere server session p q)
    (h' : Elsewhere server session q r) : Elsewhere server session p r := by
  induction h' with
  | refl => exact h
  | put _ he ih => exact .put ih he
  | handOut _ ih => exact .handOut ih
  | close _ ih => exact .close ih

end Elsewhere

/-- A session that is handed out is not one that was handed out before. -/
theorem next_ne (hheld : t.session.id < p.sessions) : (⟨p.sessions⟩ : Session) ≠ t.session := by
  intro h
  rw [← h] at hheld
  exact Nat.lt_irrefl _ hheld

variable (server) in
/-- What is done on the pool or in another transaction is done on another session. -/
theorem elsewhere_run {d : Deed} (hd : d.transaction? ≠ some t)
    (hheld : t.session.id < p.sessions) : Elsewhere server t.session p (d.run server p) := by
  have hnext := next_ne hheld
  have hother : ∀ u : Transaction, some u ≠ some t → u.session ≠ t.session := by
    rintro ⟨session⟩ hu rfl
    exact hu rfl
  cases d with
  | send via statement =>
      cases hclosed : p.closed with
      | true =>
          rw [Deed.run, Server.pooled_send_of_closed hclosed]
          exact .refl
      | false =>
          rw [Deed.run, Server.pooled_send_of_open hclosed, Server.sendOn_snd]
          exact .put (.handOut .refl) hnext
  | begin =>
      cases hclosed : p.closed with
      | true =>
          rw [Deed.run, Server.begin_of_closed hclosed]
          exact .refl
      | false =>
          rw [Deed.run, Server.begin_of_open hclosed]
          exact .put (.handOut .refl) hnext
  | sendWithin u via statement =>
      have hrun : (Deed.sendWithin u via statement).run server p =
          server.put (.ofStatement u.session statement) p := server.sendOn_snd ..
      rw [hrun]
      exact .put .refl (hother u hd)
  | finish u control =>
      cases hask : (server.ask (.control u.session control) p.state).1 with
      | ok _ =>
          rw [Deed.run, Server.finish_of_ok hask]
          exact .put .refl (hother u hd)
      | error error =>
          rw [Deed.run, Server.finish_of_error hask]
          exact .put (.put .refl (hother u hd)) (hother u hd)
  | abandon u =>
      rw [Deed.run, Server.abandon_eq]
      exact .put .refl (hother u hd)
  | close => exact .close .refl

/-- Deeds in no transaction but others leave its session alone. -/
theorem elsewhere_foldl : ∀ {turn : List Deed} {p : Pool σ},
    (∀ d ∈ turn, d.transaction? ≠ some t) → t.session.id < p.sessions →
      Elsewhere server t.session p (turn.foldl (fun pool d => d.run server pool) p)
  | [], _, _, _ => .refl
  | d :: turn, p, hturn, hheld => by
      obtain ⟨hd, hrest⟩ := List.forall_mem_cons.mp hturn
      have hstep := elsewhere_run server hd hheld
      have hlater : t.session.id < (d.run server p).sessions :=
        Nat.lt_of_lt_of_le hheld hstep.sessions_le
      exact hstep.trans (elsewhere_foldl hrest hlater)

/-! ### Deeds and events in turn -/

variable (server) in
/-- The pool comes about by the deeds and the events, in any turns. -/
inductive Interleaved : List Deed → List Event → Pool σ → Pool σ → Prop
  | nil (p : Pool σ) : Interleaved [] [] p p
  | deed {deeds : List Deed} {own : List Event} {p q : Pool σ} (d : Deed) :
      Interleaved deeds own p q → Interleaved (deeds ++ [d]) own p (d.run server q)
  | event {deeds : List Deed} {own : List Event} {p q : Pool σ} (e : Event) :
      Interleaved deeds own p q → Interleaved deeds (own ++ [e]) p (server.put e q)

theorem Interleaved.foldl {own : List Event} : ∀ {turn deeds : List Deed} {q : Pool σ},
    Interleaved server deeds own p q →
      Interleaved server (deeds ++ turn) own p (turn.foldl (fun pool d => d.run server pool) q)
  | [], deeds, q, h => by
      rw [List.append_nil]
      exact h
  | d :: turn, deeds, q, h => by
      rw [List.append_cons, List.foldl_cons]
      exact (h.deed d).foldl

/-- Of what is asked, the given events are those on the session of the transaction. -/
theorem Interleaved.log {deeds : List Deed} {own : List Event}
    (h : Interleaved server deeds own p q) (hdeeds : ∀ d ∈ deeds, d.transaction? ≠ some t)
    (hown : ∀ e ∈ own, e.session = t.session) (hheld : t.session.id < p.sessions) :
    t.session.id < q.sessions ∧ ∃ events, q.log = p.log ++ events ∧
      events.filter (fun e => e.session = t.session) = own := by
  induction h with
  | nil p => exact ⟨hheld, [], (List.append_nil _).symm, rfl⟩
  | @deed deeds own p q d _ ih =>
      obtain ⟨hbefore, hd⟩ := List.forall_mem_append.mp hdeeds
      obtain ⟨hq, events, hlog, hevents⟩ := ih hbefore hown hheld
      have hstep := elsewhere_run server (hd d List.mem_cons_self) hq
      obtain ⟨new, hnew, hothers⟩ := hstep.log
      refine ⟨Nat.lt_of_lt_of_le hq hstep.sessions_le, events ++ new, ?_, ?_⟩
      · rw [hnew, hlog, List.append_assoc]
      · have hnone : new.filter (fun e => e.session = t.session) = [] :=
          List.filter_eq_nil_iff.mpr fun e he => by simpa using hothers e he
        rw [List.filter_append, hevents, hnone, List.append_nil]
  | @event deeds own p q e _ ih =>
      obtain ⟨hbefore, he⟩ := List.forall_mem_append.mp hown
      obtain ⟨hq, events, hlog, hevents⟩ := ih hdeeds hbefore hheld
      refine ⟨hq, events ++ [e], ?_, ?_⟩
      · rw [← List.append_assoc, ← hlog]
        rfl
      · rw [List.filter_append, hevents, List.filter_cons_of_pos (by simpa using he), List.filter_nil]

end TableGateway.Database
