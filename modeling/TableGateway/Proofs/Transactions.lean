import Mathlib
import TableGateway.Proofs.Outcomes
import TableGateway.Session.Basic

/-!
# Transactions

A transaction sends the statements of its queries up to the first query that fails. It is committed
if none does and rolled back otherwise. Nothing passes from one transaction to the next but the
replies that the database has yet to give.
-/

namespace TableGateway

/-! ### Queries with their replies -/

/-- The reply in a place of a script. Behind the end nothing is affected. -/
def replyAt (script : List Reply) (n : Nat) : Reply :=
  script.getD n (.affected (.int 0))

namespace Query

/-- What a query brings if its statement gets a reply. -/
def answeredBy (q : Query) (reply : Reply) : Except SessionError QueryResult := do
  let _ ← q.statement.mapError .query
  reply.result q

/-- What a query sends: nothing without a statement. -/
def sends? (q : Query) : Option NamedStatement :=
  q.statement.toOption.map Statement.named

end Query

/-- Queries that are answered from a script, the first one in place `n`. -/
def Bring (script : List Reply) (n : Nat) (queries : List Query) (results : List QueryResult) :
    Prop :=
  List.Forall₂ (fun q r => q.1.answeredBy (replyAt script q.2) = .ok r) (queries.zipIdx n) results

/-- What comes of queries in a transaction, and which of them are tried: all if each brings a result,
and otherwise those up to the first that fails. -/
inductive Performed (script : List Reply) (n : Nat) :
    List Query → List QueryResult → Option SessionError → List Query → Prop
  | all {queries : List Query} {results : List QueryResult} (h : Bring script n queries results) :
    Performed script n queries results none queries
  | upTo {before after : List Query} {q : Query} {results : List QueryResult} {e : SessionError}
    (h : Bring script n before results)
    (he : q.answeredBy (replyAt script (n + before.length)) = .error e) :
    Performed script n (before ++ q :: after) results (some e) (before ++ [q])

section

variable {script : List Reply} {n : Nat} {q : Query} {rest tried : List Query}
  {results : List QueryResult} {failure : Option SessionError}

lemma Bring.nil : Bring script n [] [] :=
  List.Forall₂.nil

lemma Bring.cons {r : QueryResult} (h : q.answeredBy (replyAt script n) = .ok r)
    (hrest : Bring script (n + 1) rest results) : Bring script n (q :: rest) (r :: results) := by
  unfold Bring
  rw [List.zipIdx_cons]
  exact .cons h hrest

lemma Performed.fails {e : SessionError} (h : q.answeredBy (replyAt script n) = .error e) :
    Performed script n (q :: rest) [] (some e) [q] := by
  have hfails : Performed script n ([] ++ q :: rest) [] (some e) ([] ++ [q]) := .upTo .nil h
  exact hfails

lemma Performed.brings {r : QueryResult} (h : q.answeredBy (replyAt script n) = .ok r)
    (hrest : Performed script (n + 1) rest results failure tried) :
    Performed script n (q :: rest) (r :: results) failure (q :: tried) := by
  cases hrest with
  | all hall => exact .all (.cons h hall)
  | @upTo before after failing _ _ hbefore he =>
    change Performed script n (q :: before ++ failing :: after) _ _ (q :: before ++ [failing])
    refine .upTo (.cons h hbefore) ?_
    rwa [List.length_cons, Nat.add_comm _ 1, ← Nat.add_assoc]

/-- The first query decides whether there is anything behind it. -/
lemma Performed.cons (h : Performed script n (q :: rest) results failure tried) :
    (∃ e, q.answeredBy (replyAt script n) = .error e ∧ results = [] ∧ failure = some e ∧
      tried = [q]) ∨
    ∃ r others later, q.answeredBy (replyAt script n) = .ok r ∧ results = r :: others ∧
      tried = q :: later ∧ Performed script (n + 1) rest others failure later := by
  generalize hqueries : q :: rest = queries at h
  cases h with
  | all hall =>
    subst hqueries
    unfold Bring at hall
    rw [List.zipIdx_cons] at hall
    cases hall with
    | cons hr hothers => exact .inr ⟨_, _, _, hr, rfl, rfl, .all hothers⟩
  | @upTo before after p results e hbefore he =>
    cases before with
    | nil =>
      cases hqueries
      cases hbefore
      exact .inl ⟨_, he, rfl, rfl, rfl⟩
    | cons b before =>
      cases hqueries
      unfold Bring at hbefore
      rw [List.zipIdx_cons] at hbefore
      rw [List.length_cons, Nat.add_comm _ 1, ← Nat.add_assoc] at he
      cases hbefore with
      | cons hr hothers => exact .inr ⟨_, _, _, hr, rfl, rfl, .upTo hothers he⟩

lemma Performed.nil (h : Performed script n [] results failure tried) :
    results = [] ∧ failure = none ∧ tried = [] := by
  generalize hqueries : [] = queries at h
  cases h with
  | all hall =>
    subst hqueries
    cases hall
    exact ⟨rfl, rfl, rfl⟩
  | upTo hbefore he => simp at hqueries

/-- What comes of queries is determined by the replies that are yet to come. -/
lemma Performed.unique {other : List Reply} {m : Nat} {queries later : List Query}
    {others : List QueryResult} {fault : Option SessionError}
    (hreplies : ∀ i, replyAt script (n + i) = replyAt other (m + i))
    (h : Performed script n queries results failure tried)
    (hother : Performed other m queries others fault later) :
    results = others ∧ failure = fault ∧ tried = later := by
  induction queries generalizing n m results others tried later with
  | nil =>
    obtain ⟨rfl, rfl, rfl⟩ := h.nil
    obtain ⟨rfl, rfl, rfl⟩ := hother.nil
    exact ⟨rfl, rfl, rfl⟩
  | cons q rest ih =>
    have hfirst : replyAt script n = replyAt other m := hreplies 0
    have hnext (i : Nat) : replyAt script (n + 1 + i) = replyAt other (m + 1 + i) := by
      rw [Nat.add_assoc, Nat.add_assoc, Nat.add_comm 1 i]
      exact hreplies (i + 1)
    rcases h.cons with ⟨e, he, rfl, rfl, rfl⟩ | ⟨r, rs, ts, hr, rfl, rfl, hrest⟩
    · rcases hother.cons with ⟨e', he', rfl, rfl, rfl⟩ | ⟨r', rs', ts', hr', -, -, -⟩
      · rw [hfirst, he'] at he
        cases he
        exact ⟨rfl, rfl, rfl⟩
      · rw [hfirst, hr'] at he
        cases he
    · rcases hother.cons with ⟨e', he', -, -, -⟩ | ⟨r', rs', ts', hr', rfl, rfl, hrest'⟩
      · rw [hfirst, he'] at hr
        cases hr
      · rw [hfirst, hr'] at hr
        cases hr
        obtain ⟨rfl, rfl, rfl⟩ := ih hnext hrest hrest'
        exact ⟨rfl, rfl, rfl⟩

end

/-! ### One transaction -/

/-- What queries send, as the database sees it. -/
def sentBy (queries : List Query) : List TraceEntry :=
  (queries.filterMap Query.sends?).map .sent

lemma sentBy_append (queries others : List Query) :
    sentBy (queries ++ others) = sentBy queries ++ sentBy others := by
  simp [sentBy]

namespace Transaction

/-- A transaction ends as it should: what it has sent is what its queries send, up to the first that
fails, and what it brings is what those before that one bring. If none fails it is committed and
otherwise rolled back, once and at the end. -/
def Ends (script : List Reply) (n : Nat) (queries : List Query) (t : Transaction) : Prop :=
  ∃ tried, Performed script n queries t.results t.failure tried ∧
    t.trace = .begun :: sentBy tried ++ [if t.failure.isNone then .committed else .rolledBack]

/-- The statements that the database got. -/
def sent (t : Transaction) : List Query.NamedStatement :=
  t.trace.filterMap fun
    | .sent statement => some statement
    | _ => none

end Transaction

namespace Session

section Steps

variable {script : List Reply} {n : Nat} {w u : Working} {tried later : List Query}

/-- A session at work takes the replies from a script, the next one from place `n`. -/
structure Reads (script : List Reply) (n : Nat) (w : Working) : Prop where
  replies : w.session.replies = script.drop n
  barrier : w.session.barrier = none

/-- What queries that are tried do to a session at work. -/
structure Advances (script : List Reply) (n : Nat) (tried : List Query) (w u : Working) : Prop where
  trace : u.trace = w.trace ++ sentBy tried
  reads : Reads script (n + (sentBy tried).length) u

lemma Advances.append (h : Advances script n tried w u) {v : Working}
    (hlater : Advances script (n + (sentBy tried).length) later u v) :
    Advances script n (tried ++ later) w v := by
  constructor
  · rw [hlater.trace, h.trace, sentBy_append, List.append_assoc]
  · rw [sentBy_append, List.length_append, ← Nat.add_assoc]
    exact hlater.reads

lemma nextReply_of_reads (h : Reads script n w) :
    w.nextReply = (replyAt script n,
      { w with session := { w.session with replies := script.drop (n + 1) } }) := by
  obtain ⟨⟨id, replies, barrier, isConnected⟩, trace, log⟩ := w
  obtain ⟨hreplies, -⟩ := h
  dsimp only at hreplies
  subst hreplies
  unfold Working.nextReply replyAt
  dsimp only
  split
  · next hnil =>
    have hlength : script.length ≤ n := List.drop_eq_nil_iff.mp hnil
    rw [List.getD_eq_default _ _ hlength, hnil, List.drop_eq_nil_of_le (hlength.trans n.le_succ)]
  · next r rest hcons =>
    have hlength : n < script.length := by
      by_contra hle
      rw [List.drop_eq_nil_of_le (not_lt.mp hle)] at hcons
      cases hcons
    rw [List.drop_eq_getElem_cons hlength] at hcons
    cases hcons
    rw [List.getD_eq_getElem _ _ hlength]

lemma run_nextReply (h : Reads script n w) :
    (modifyGet Working.nextReply : ExceptT SessionError (StateM Working) Reply).run.run w =
      (.ok (replyAt script n),
        { w with session := { w.session with replies := script.drop (n + 1) } }) := by
  change (Except.ok w.nextReply.1, w.nextReply.2) = _
  rw [nextReply_of_reads h]

/-- Whatever is noted of a reply, the outcome is that of the reply. -/
lemma run_noted (h : Reads script n w) (q : Query) (reply : Reply) :
    ∃ u, (do
      match reply with
      | .refusal text => modify (Working.tell (.failed text))
      | _ => modify (Working.tell .answered)
      perform.liftExcept (reply.result q) :
        ExceptT SessionError (StateM Working) QueryResult).run.run w = (reply.result q, u) ∧
      u.trace = w.trace ∧ Reads script n u := by
  have hlift (x : Except SessionError QueryResult) (v : Working) :
      (perform.liftExcept x).run.run v = (x, v) := by
    cases x <;> rfl
  cases reply
  all_goals
    refine ⟨_, (run_bind_of_run_ok rfl).trans (hlift _ _), rfl, ?_⟩
    exact ⟨h.replies, h.barrier⟩

/-- A query brings what its reply makes of it and sends its statement, if it has one. -/
lemma perform_advances (h : Reads script n w) (q : Query) :
    ∃ u, (perform q).run.run w = (q.answeredBy (replyAt script n), u) ∧
      Advances script n [q] w u := by
  unfold perform Query.answeredBy
  cases hstatement : q.statement with
  | error e =>
    have hsent : sentBy [q] = [] := by simp [sentBy, Query.sends?, hstatement, Except.toOption]
    refine ⟨w, rfl, ?_, ?_⟩
    · rw [hsent, List.append_nil]
    · rw [hsent]
      exact h
  | ok statement =>
    have hsent : sentBy [q] = [.sent statement.named] := by
      simp [sentBy, Query.sends?, hstatement, Except.toOption]
    let asked := (w.tell (.sent statement.named.text)).record (.sent statement.named)
    let answered := { asked with session := { asked.session with replies := script.drop (n + 1) } }
    have hasked : Reads script n asked := ⟨h.replies, h.barrier⟩
    have hanswered : Reads script (n + 1) answered := ⟨rfl, h.barrier⟩
    obtain ⟨u, hrun, htrace, hreads⟩ := run_noted hanswered q (replyAt script n)
    refine ⟨u, ?_, ?_, ?_⟩
    · exact (run_bind_of_run_ok rfl).trans ((run_bind_of_run_ok (run_nextReply hasked)).trans hrun)
    · rw [htrace, hsent]
      rfl
    · rw [hsent]
      exact hreads

/-- A query that brings something has sent its statement. -/
lemma length_sentBy_of_ok {q : Query} {reply : Reply} {r : QueryResult}
    (h : q.answeredBy reply = .ok r) : (sentBy [q]).length = 1 := by
  obtain ⟨statement, hstatement, -⟩ := exists_of_bind_eq_ok h
  simp [sentBy, Query.sends?, mapError_eq_ok.mp hstatement, Except.toOption]

lemma performAll_advances (h : Reads script n w) (queries : List Query) :
    ∃ results failure tried u, (performAll queries).run w = ((results, failure), u) ∧
      Performed script n queries results failure tried ∧ Advances script n tried w u := by
  induction queries generalizing n w with
  | nil =>
    refine ⟨[], none, [], w, rfl, .all .nil, ?_, h⟩
    exact (List.append_nil _).symm
  | cons q rest ih =>
    obtain ⟨u, hrun, hadvances⟩ := perform_advances h q
    have hcons : (performAll (q :: rest)).run w =
        (match (perform q).run.run w with
          | (.error e, v) => (([], some e), v)
          | (.ok r, v) =>
            let x := (performAll rest).run v
            ((r :: x.1.1, x.1.2), x.2)) := by
      rw [performAll, StateT.run_bind]
      rcases (perform q).run.run w with ⟨e | r, v⟩ <;> rfl
    rw [hcons, hrun]
    cases hanswered : q.answeredBy (replyAt script n) with
    | error e => exact ⟨[], some e, [q], u, rfl, .fails hanswered, hadvances⟩
    | ok r =>
      have hreads := hadvances.reads
      rw [length_sentBy_of_ok hanswered] at hreads
      obtain ⟨results, failure, tried, v, hrest, hperformed, hmore⟩ := ih hreads
      refine ⟨r :: results, failure, q :: tried, v, ?_, hperformed.brings hanswered, ?_⟩
      · dsimp only
        rw [hrest]
      · rw [← length_sentBy_of_ok hanswered] at hmore
        exact hadvances.append hmore

end Steps

/-! ### Runs of transactions -/

/-- Transactions of a session, one after the other. -/
def transactAll (s : Session) : List (List Query) → List Transaction
  | [] => []
  | queries :: rest => (s.transact queries).1 :: (s.transact queries).2.transactAll rest

section Runs

variable {s : Session} {script : List Reply} {n : Nat}

lemma sent_of_trace {t : Transaction} {tried : List Query} {last : TraceEntry}
    (hlast : ∀ statement, last ≠ .sent statement)
    (h : t.trace = .begun :: sentBy tried ++ [last]) : t.sent = tried.filterMap Query.sends? := by
  have hend : [last].filterMap (fun
      | .sent statement => some statement
      | _ => none) = [] := by
    cases last with
    | sent statement => exact absurd rfl (hlast statement)
    | _ => rfl
  unfold Transaction.sent
  rw [h, List.filterMap_append, hend, List.append_nil, sentBy, List.filterMap_cons_none rfl,
    List.filterMap_map]
  exact List.filterMap_some

lemma transact_ends (hreplies : s.replies = script.drop n) (hbarrier : s.barrier = none)
    (queries : List Query) :
    (s.transact queries).1.Ends script n queries ∧
      (s.transact queries).2.replies = script.drop (n + (s.transact queries).1.sent.length) ∧
      (s.transact queries).2.barrier = none := by
  let start := (connect ⟨s, [], []⟩).record .begun
  have hstart : Reads script n start ∧ start.trace = [.begun] := by
    unfold start connect
    dsimp only
    split <;> exact ⟨⟨hreplies, hbarrier⟩, rfl⟩
  obtain ⟨results, failure, tried, u, hrun, hperformed, hadvances⟩ :=
    performAll_advances hstart.1 queries
  let last : TraceEntry := if failure.isNone then .committed else .rolledBack
  have htransact : s.transact queries =
      (⟨results, failure, u.trace ++ [last], u.log⟩, u.session) := by
    unfold transact
    rw [hbarrier]
    dsimp only
    rw [hrun]
    rfl
  have htrace : u.trace ++ [last] = .begun :: sentBy tried ++ [last] := by
    rw [hadvances.trace, hstart.2]
    rfl
  rw [htransact]
  have hends : Transaction.Ends script n queries ⟨results, failure, u.trace ++ [last], u.log⟩ :=
    ⟨tried, hperformed, htrace⟩
  have hsent := sent_of_trace (t := ⟨results, failure, u.trace ++ [last], u.log⟩)
    (by intro statement; unfold last; split <;> exact TraceEntry.noConfusion) htrace
  refine ⟨hends, ?_, hadvances.reads.barrier⟩
  rw [hsent, ← List.length_map TraceEntry.sent]
  exact hadvances.reads.replies

/-- How many statements were sent in the first transactions of a run. -/
def sentBefore (run : List Transaction) (k : Nat) : Nat :=
  ((run.take k).flatMap Transaction.sent).length

lemma transactAll_ends (hreplies : s.replies = script.drop n) (hbarrier : s.barrier = none)
    {transactions : List (List Query)} {k : Nat} {queries : List Query} {t : Transaction}
    (hqueries : transactions[k]? = some queries)
    (ht : (s.transactAll transactions)[k]? = some t) :
    t.Ends script (n + sentBefore (s.transactAll transactions) k) queries := by
  induction transactions generalizing s n k with
  | nil => simp at hqueries
  | cons first rest ih =>
    obtain ⟨hends, hleft, hopen⟩ := transact_ends hreplies hbarrier first
    rw [transactAll] at ht ⊢
    cases k with
    | zero =>
      cases hqueries
      cases ht
      exact hends
    | succ k =>
      rw [List.getElem?_cons_succ] at hqueries ht
      have hrest := ih hleft hopen hqueries ht
      unfold sentBefore at hrest ⊢
      rwa [List.take_succ_cons, List.flatMap_cons, List.length_append, ← Nat.add_assoc]

lemma length_transactAll (s : Session) (transactions : List (List Query)) :
    (s.transactAll transactions).length = transactions.length := by
  induction transactions generalizing s with
  | nil => rfl
  | cons first rest ih => rw [transactAll, List.length_cons, List.length_cons, ih]

/-- Without a connection no transaction begins. -/
lemma transactAll_unreachable {text : String} (h : s.barrier = some text)
    (transactions : List (List Query)) :
    ∀ t ∈ s.transactAll transactions,
      t.results = [] ∧ t.failure = some (.unreachable text) ∧ t.trace = [] := by
  induction transactions with
  | nil => simp [transactAll]
  | cons queries rest ih =>
    have htransact : s.transact queries =
        (⟨[], some (.unreachable text), [], ((Working.mk s [] []).tell (.failed text)).log⟩, s) := by
      unfold transact
      rw [h]
    rw [transactAll, htransact, List.forall_mem_cons]
    exact ⟨⟨rfl, rfl, rfl⟩, ih⟩

end Runs

/-- Every transaction of a run ends as it should, with the replies that come after those to the
statements of the transactions before it. In whatever run it stands, the same queries send the same
statements if the same replies are yet to come. Only a session that cannot be connected begins no
transaction. -/
theorem transactions_end (s : Session) (transactions : List (List Query)) :
    let run := s.transactAll transactions
    run.length = transactions.length ∧
      (∀ text, s.barrier = some text → ∀ t ∈ run,
        t.results = [] ∧ t.failure = some (.unreachable text) ∧ t.trace = []) ∧
      (s.barrier = none → ∀ k queries t, transactions[k]? = some queries → run[k]? = some t →
        t.Ends s.replies (sentBefore run k) queries ∧
        ∀ (other : Session) (others : List (List Query)) (l : Nat) (u : Transaction),
          other.barrier = none → others[l]? = some queries →
          (other.transactAll others)[l]? = some u →
          (∀ i, replyAt s.replies (sentBefore run k + i) =
            replyAt other.replies (sentBefore (other.transactAll others) l + i)) →
          u.trace = t.trace ∧ u.results = t.results ∧ u.failure = t.failure) := by
  intro run
  refine ⟨length_transactAll s transactions, fun text h => transactAll_unreachable h transactions,
    fun hbarrier k queries t hqueries ht => ?_⟩
  have hends : t.Ends s.replies (sentBefore run k) queries := by
    have h := transactAll_ends (n := 0) rfl hbarrier hqueries ht
    rwa [Nat.zero_add] at h
  refine ⟨hends, fun other others l u hopen hothers hu hreplies => ?_⟩
  have hother : u.Ends other.replies (sentBefore (other.transactAll others) l) queries := by
    have h := transactAll_ends (n := 0) rfl hopen hothers hu
    rwa [Nat.zero_add] at h
  obtain ⟨tried, hperformed, htrace⟩ := hends
  obtain ⟨later, hperformed', htrace'⟩ := hother
  obtain ⟨hresults, hfailure, htried⟩ := hperformed.unique hreplies hperformed'
  refine ⟨?_, hresults.symm, hfailure.symm⟩
  rw [htrace, htrace', htried, hfailure]

/-- Deletes all orders. -/
def purge : Query :=
  .delete { source := "orders" }

/-- A comparison with an empty list, which has no statement. -/
def idle : Query :=
  .delete { source := "orders", conditions := [.term { field := "id", value := .array [] }] }

def tally : Query :=
  .count { source := "orders" }

/-- Between two runs the first transaction differs, but not the transaction after it. -/
theorem transactions_end_afterRollback :
    let s : Session := { id := .string "main", replies :=
      [.affected (.int 3), .resultSet ["count"] [[.int 5]], .refusal "locked"] }
    let other : Session := { id := .string "other", replies := s.replies.tail }
    ∃ t u v, s.transactAll [[purge, idle, purge], [tally, purge, tally]] = [t, u] ∧
      other.transactAll [[tally, purge, tally]] = [v] ∧
      t.results = [.count (.int 3)] ∧
      t.trace = [.begun, .sent ⟨"DELETE FROM orders", none⟩, .rolledBack] ∧
      u.results = [.count (.int 5)] ∧ u.failure = some (.refused "locked") ∧
      u.trace = [.begun, .sent ⟨"SELECT COUNT(*) FROM orders", none⟩,
        .sent ⟨"DELETE FROM orders", none⟩, .rolledBack] ∧
      u.Ends s.replies 1 [tally, purge, tally] ∧ v.trace = u.trace := by
  intro s other
  obtain ⟨-, -, h⟩ := transactions_end s [[purge, idle, purge], [tally, purge, tally]]
  obtain ⟨hends, hother⟩ := h rfl 1 [tally, purge, tally] _ rfl rfl
  have hreplies (i : Nat) : replyAt s.replies (1 + i) = replyAt other.replies (0 + i) := by
    rw [Nat.add_comm, Nat.zero_add]
    rfl
  obtain ⟨htrace, -, -⟩ := hother other [[tally, purge, tally]] 0 _ rfl rfl rfl hreplies
  exact ⟨_, _, _, rfl, rfl, rfl, rfl, rfl, rfl, by cbv, hends, htrace⟩

end Session

end TableGateway
