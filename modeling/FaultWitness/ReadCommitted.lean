/-
**Transactions on a row store at READ COMMITTED.**

A database transaction is a program of single-row statements.  Run alone it is a function of the
database; run beside others it takes one statement at a time, sees what the others have committed
so far, and waits for rows that another open transaction has locked.  This module gives both
meanings to one and the same program and relates them.

What a statement does to the rows follows PostgreSQL at its default isolation level:

* `SELECT … FOR UPDATE` sees the committed row, or the transaction's own version of it, and locks
  it; a row that does not exist cannot be locked, so a transaction that looked up an absent key
  holds nothing;
* `INSERT` waits for another open transaction that wrote the same key, and fails with a unique
  violation when a visible row is there;
* `UPDATE`, `DELETE` and `INSERT … ON CONFLICT DO UPDATE` are one form of statement, a function of
  the visible row, and lock the row they find;
* `COMMIT` publishes the writes and releases the locks; an exception, or an abort from outside,
  discards the writes and releases the locks.

The lock table is a function from keys to owners, so two owners of one row cannot be written down.

Main definitions:

* `ReadCommitted.Prog` — the body of a transaction;
* `ReadCommitted.exec`, `ReadCommitted.transact` — its meaning when it runs alone;
* `ReadCommitted.System`, `ReadCommitted.step` — any number of open transactions, one statement at
  a time;
* `ReadCommitted.Guards` — every key that was looked up and found absent is inserted before the
  commit.

Main results:

* `ReadCommitted.commit_serial` — **a transaction that commits is serialisable at its commit**: if
  its body is guarded, its result and its effect are those of running the whole body alone on the
  database as it stands when it commits;
* `ReadCommitted.db_invariant` — hence an invariant of the committed database needs to be checked
  only for bodies that run alone;
* `ReadCommitted.Reads.stepTx` — how a body that only reads ends, given what holds of the committed
  database while it runs.
-/

import FaultWitness.Runs

set_option autoImplicit false

namespace ReadCommitted

variable {K : Type} [DecidableEq K] {V : K → Type} {R E : Type}

/-! ### Tables -/

/-- Replacing one row: `none` deletes it. -/
def put (t : AList V) (k : K) : Option (V k) → AList V
  | some v => t.insert k v
  | none => t.erase k

@[simp] theorem lookup_put_self (t : AList V) (k : K) (o : Option (V k)) :
    (put t k o).lookup k = o := by
  cases o with
  | none => exact AList.lookup_erase k t
  | some v => exact AList.lookup_insert t

variable {k : K} {t : AList V}

theorem lookup_put_of_ne {k' : K} (h : k' ≠ k) (o : Option (V k)) :
    (put t k o).lookup k' = t.lookup k' := by
  cases o with
  | none => exact AList.lookup_erase_ne h
  | some v => exact AList.lookup_insert_ne h

/-- Replaying a list of row replacements, the oldest of which is the last. -/
def apply (ws : List (Sigma fun k => Option (V k))) (t : AList V) : AList V :=
  ws.foldr (fun w t => put t w.1 w.2) t

@[simp] theorem apply_nil (t : AList V) : apply [] t = t := rfl

@[simp] theorem apply_cons (k : K) (o : Option (V k)) (ws : List (Sigma fun k => Option (V k)))
    (t : AList V) : apply (⟨k, o⟩ :: ws) t = put (apply ws t) k o := rfl

variable {ws : List (Sigma fun k => Option (V k))}

theorem lookup_apply_of_notMem (h : k ∉ ws.map Sigma.fst) (t : AList V) :
    (apply ws t).lookup k = t.lookup k := by
  induction ws with
  | nil => rfl
  | cons w ws ih =>
    simp only [List.map_cons, List.mem_cons, not_or] at h
    rw [show w = ⟨w.1, w.2⟩ from rfl, apply_cons, lookup_put_of_ne h.1, ih h.2]

variable {o : Option (V k)}

theorem lookup_apply_of_mem (hnd : (ws.map Sigma.fst).Nodup) (h : ⟨k, o⟩ ∈ ws) (t : AList V) :
    (apply ws t).lookup k = o := by
  induction ws with
  | nil => exact absurd h (by simp)
  | cons w ws ih =>
    obtain ⟨hw, hnd⟩ := List.nodup_cons.1 hnd
    rw [show w = ⟨w.1, w.2⟩ from rfl, apply_cons]
    rcases List.mem_cons.1 h with rfl | h
    · exact lookup_put_self ..
    · have hne : k ≠ w.1 := by
        rintro rfl
        exact hw (List.mem_map.2 ⟨⟨_, o⟩, h, rfl⟩)
      rw [lookup_put_of_ne hne, ih hnd h]

/-- The row a key has after the replacements depends on the table only at that key. -/
theorem lookup_apply_congr (ws : List (Sigma fun k => Option (V k))) {t' : AList V}
    (h : t.lookup k = t'.lookup k) : (apply ws t).lookup k = (apply ws t').lookup k := by
  induction ws with
  | nil => exact h
  | cons w ws ih =>
    rw [show w = ⟨w.1, w.2⟩ from rfl, apply_cons, apply_cons]
    by_cases hk : k = w.1
    · subst hk
      rw [lookup_put_self, lookup_put_self]
    · rw [lookup_put_of_ne hk, lookup_put_of_ne hk, ih]

/-! ### Transaction bodies -/

/-- The body of a transaction, statement by statement. -/
inductive Prog (V : K → Type) (R E : Type) : Type
  /-- `SELECT … FOR UPDATE` of one row. -/
  | select (k : K) (next : Option (V k) → Prog V R E)
  /-- `INSERT` of one row. -/
  | insert (k : K) (v : V k) (next : Prog V R E)
  /-- `UPDATE`, `DELETE` or `INSERT … ON CONFLICT DO UPDATE` of one row.  `onRow` gives the
  replacement of a visible row, or `none` when the row does not meet the condition; `onAbsent` is
  the row to insert when there is none.  The continuation learns whether a row was affected. -/
  | write (k : K) (onRow : V k → Option (Option (V k))) (onAbsent : Option (V k))
      (next : Bool → Prog V R E)
  /-- The end of the transaction block. -/
  | commit (r : R)
  /-- An exception inside the transaction block. -/
  | raise (e : E)

/-- How a transaction ends. -/
inductive Outcome (R E : Type) : Type
  | committed (r : R)
  | raised (e : E)
  | uniqueViolation
  | aborted
deriving DecidableEq

/-- What a `write` statement puts in place of the visible row. -/
def replacement {k : K} (onRow : V k → Option (Option (V k))) (onAbsent : Option (V k)) :
    Option (V k) → Option (Option (V k))
  | some v => onRow v
  | none => onAbsent.map some

/-- Executing a body on a working table, with no other transaction around. -/
def exec : Prog V R E → AList V → Outcome R E × AList V
  | .select k next, t => exec (next (t.lookup k)) t
  | .insert k v next, t =>
    match t.lookup k with
    | some _ => (.uniqueViolation, t)
    | none => exec next (put t k (some v))
  | .write k onRow onAbsent next, t =>
    match replacement onRow onAbsent (t.lookup k) with
    | some o => exec (next true) (put t k o)
    | none => exec (next false) t
  | .commit r, t => (.committed r, t)
  | .raise e, t => (.raised e, t)

/-- A whole transaction run alone: the working table is kept only when it commits. -/
def transact (p : Prog V R E) (t : AList V) : Outcome R E × AList V :=
  match exec p t with
  | (.committed r, t') => (.committed r, t')
  | (o, _) => (o, t)

/-- The keys that are known to have a row after the row of `k` was replaced. -/
def hold {k : K} (held : List K) : Option (Option (V k)) → List K
  | some none => held.filter (· ≠ k)
  | _ => k :: held

/-- Every key that is looked up and found absent is inserted before the commit, and not looked up
again before that.  `absent` lists the keys for which the insertion is still owed, `held` those
whose row the transaction has found or written, and which it therefore finds again. -/
def Guards : List K → List K → Prog V R E → Prop
  | absent, held, .select k next =>
    k ∉ absent ∧ (k ∉ held → Guards (k :: absent) held (next none)) ∧
      ∀ v, Guards absent (k :: held) (next (some v))
  | absent, held, .insert k _ next => Guards (absent.filter (· ≠ k)) (k :: held) next
  | absent, held, .write k onRow onAbsent next =>
    k ∉ absent ∧ (∀ v, Guards absent (hold held (onRow v)) (next (onRow v).isSome)) ∧
      (k ∉ held → match onAbsent with
        | some _ => Guards absent (k :: held) (next true)
        | none => Guards (k :: absent) held (next false))
  | absent, _, .commit _ => absent = []
  | _, _, .raise _ => True

variable {p : Prog V R E} {held : List K}

theorem Guards.mono {as bs : List K} (hsub : as ⊆ bs) (h : Guards bs held p) :
    Guards as held p := by
  induction p generalizing as bs held with
  | select k next ih =>
    obtain ⟨hk, h₀, h₁⟩ := h
    refine ⟨fun hk' => hk (hsub hk'), fun hh => ih none ?_ (h₀ hh),
      fun v => ih (some v) hsub (h₁ v)⟩
    exact List.cons_subset_cons k hsub
  | insert k v next ih =>
    refine ih ?_ h
    intro a ha
    obtain ⟨ha, hne⟩ := List.mem_filter.1 ha
    exact List.mem_filter.2 ⟨hsub ha, hne⟩
  | write k onRow onAbsent next ih =>
    obtain ⟨hk, h₀, h₁⟩ := h
    refine ⟨fun hk' => hk (hsub hk'), fun v => ih _ hsub (h₀ v), fun hh => ?_⟩
    cases onAbsent with
    | some v => exact ih _ hsub (h₁ hh)
    | none => exact ih _ (List.cons_subset_cons k hsub) (h₁ hh)
  | commit r => exact List.subset_nil.1 (h ▸ hsub)
  | raise e => trivial

/-- The body of a transaction that fails at its `n`-th statement, whatever the reason. -/
def Prog.cut (e : E) : ℕ → Prog V R E → Prog V R E
  | 0, _ => .raise e
  | n + 1, .select k next => .select k fun o => (next o).cut e n
  | n + 1, .insert k v next => .insert k v (next.cut e n)
  | n + 1, .write k onRow onAbsent next => .write k onRow onAbsent fun b => (next b).cut e n
  | _ + 1, .commit r => .commit r
  | _ + 1, .raise e' => .raise e'

/-- What a body commits although it may fail at a statement, it commits without failing. -/
theorem exec_cut {e : E} {n : ℕ} {t' : AList V} {r : R}
    (h : exec (p.cut e n) t = (.committed r, t')) : exec p t = (.committed r, t') := by
  induction n generalizing p t with
  | zero => cases p <;> simp [Prog.cut, exec] at h
  | succ n ih =>
    cases p with
    | select k next =>
      simp only [Prog.cut, exec] at h ⊢
      exact ih h
    | insert k v next =>
      simp only [Prog.cut, exec] at h ⊢
      split at h
      · cases h
      · exact ih h
    | write k onRow onAbsent next =>
      simp only [Prog.cut, exec] at h ⊢
      split at h
      · exact ih h
      · exact ih h
    | commit r' => exact h
    | raise e' => exact h

theorem Guards.cut {absent : List K} (h : Guards absent held p) (e : E) (n : ℕ) :
    Guards absent held (p.cut e n) := by
  induction n generalizing p absent held with
  | zero => cases p <;> trivial
  | succ n ih =>
    cases p with
    | select k next => exact ⟨h.1, fun hh => ih (h.2.1 hh), fun v => ih (h.2.2 v)⟩
    | insert k v next => exact ih (p := next) h
    | write k onRow onAbsent next =>
      refine ⟨h.1, fun v => ih (h.2.1 v), fun hh => ?_⟩
      have hrest := h.2.2 hh
      cases onAbsent with
      | some v => exact ih hrest
      | none => exact ih hrest
    | commit r => exact h
    | raise e' => trivial

/-! ### Open transactions side by side -/

/-- An open transaction: what is left of its body and the rows it has written, newest first.  The
other fields record the run and influence nothing: the committed rows the transaction has
consulted, the keys it found absent and has not inserted since, and the keys it knows to have a
row. -/
structure Tx (V : K → Type) (R E : Type) where
  rest : Prog V R E
  writes : List (Sigma fun k => Option (V k)) := []
  reads : List (Sigma fun k => Option (V k)) := []
  absent : List K := []
  held : List K := []

/-- The keys owed after one more was found absent; a row that the transaction has written itself is
not owed. -/
def Tx.owe (tx : Tx V R E) (k : K) : List K :=
  if k ∈ tx.writes.map Sigma.fst then tx.absent else k :: tx.absent

variable {C : Type}

/-- A client connection: the request `c` it serves and how far it is. -/
inductive Status (C : Type) (V : K → Type) (R E : Type) : Type
  | idle
  | running (c : C) (tx : Tx V R E)
  | done (c : C) (o : Outcome R E)

/-- How the request of a connection was answered. -/
def Status.answer : Status C V R E → Option (C × Outcome R E)
  | .done c o => some (c, o)
  | _ => none

variable {c : C} {st : Status C V R E}

omit [DecidableEq K] in
theorem Status.answer_eq_some {o : Outcome R E} : st.answer = some (c, o) ↔ st = .done c o := by
  cases st <;> simp [Status.answer]

def Status.isIdle : Status C V R E → Bool
  | .idle => true
  | _ => false

omit [DecidableEq K] in
theorem Status.isIdle_iff : st.isIdle = true ↔ st = .idle := by
  cases st <;> simp [Status.isIdle]

/-- The committed database, the owner of each row lock, and the connections. -/
structure System (C : Type) (V : K → Type) (R E : Type) where
  db : AList V
  owner : K → Option ℕ := fun _ => none
  txs : ℕ → Status C V R E := fun _ => .idle

/-- A move: a connection begins to serve a request, executes its next statement, or is aborted from
outside (a lost connection, a timeout, a deadlock). -/
inductive Label (C : Type) : Type
  | start (i : ℕ) (c : C)
  | exec (i : ℕ)
  | abort (i : ℕ)

namespace System

/-- No other transaction holds the lock of the row. -/
def Free (s : System C V R E) (i : ℕ) (k : K) : Prop := s.owner k = none ∨ s.owner k = some i

instance (s : System C V R E) (i : ℕ) (k : K) : Decidable (s.Free i k) :=
  inferInstanceAs (Decidable (_ ∨ _))

/-- Another open transaction has written the row and not committed. -/
def Contended (s : System C V R E) (i : ℕ) (k : K) : Bool :=
  match s.owner k with
  | some j =>
    match s.txs j with
    | .running _ tx => decide (j ≠ i) && decide (k ∈ tx.writes.map Sigma.fst)
    | _ => false
  | none => false

/-- The transaction goes on, holding what it held. -/
def goOn (s : System C V R E) (i : ℕ) (c : C) (tx : Tx V R E) : System C V R E :=
  { s with txs := Function.update s.txs i (.running c tx) }

/-- The transaction goes on, holding one more row. -/
def goOnLocking (s : System C V R E) (i : ℕ) (c : C) (tx : Tx V R E) (k : K) :
    System C V R E :=
  { s with owner := Function.update s.owner k (some i)
           txs := Function.update s.txs i (.running c tx) }

/-- The transaction ends, leaving the database `db` and releasing its locks. -/
def finish (s : System C V R E) (i : ℕ) (c : C) (o : Outcome R E) (db : AList V) :
    System C V R E :=
  { db := db
    owner := fun k => if s.owner k = some i then none else s.owner k
    txs := Function.update s.txs i (.done c o) }

end System

/-- The next statement of an open transaction; `none` while it has to wait for a lock. -/
def stepTx (s : System C V R E) (i : ℕ) (c : C) (tx : Tx V R E) : Option (System C V R E) :=
  match tx.rest with
  | .select k next =>
    match (apply tx.writes s.db).lookup k with
    | none =>
      some (s.goOn i c { tx with rest := next none
                                 reads := ⟨k, s.db.lookup k⟩ :: tx.reads
                                 absent := tx.owe k })
    | some v =>
      if s.Free i k then
        some (s.goOnLocking i c { tx with rest := next (some v)
                                          reads := ⟨k, s.db.lookup k⟩ :: tx.reads
                                          held := k :: tx.held } k)
      else none
  | .insert k v next =>
    match (apply tx.writes s.db).lookup k with
    | some _ => if s.Contended i k then none else some (s.finish i c .uniqueViolation s.db)
    | none =>
      if s.Free i k then
        some (s.goOnLocking i c { rest := next
                                  writes := ⟨k, some v⟩ :: tx.writes
                                  reads := ⟨k, s.db.lookup k⟩ :: tx.reads
                                  absent := tx.absent.filter (· ≠ k)
                                  held := k :: tx.held } k)
      else none
  | .write k onRow onAbsent next =>
    match (apply tx.writes s.db).lookup k, onAbsent with
    | some v, _ =>
      if s.Free i k then
        some (s.goOnLocking i c
          { tx with rest := next (onRow v).isSome
                    writes := ((onRow v).map fun o => ⟨k, o⟩).toList ++ tx.writes
                    reads := ⟨k, s.db.lookup k⟩ :: tx.reads
                    held := hold tx.held (onRow v) } k)
      else none
    | none, some v =>
      if s.Free i k then
        some (s.goOnLocking i c { tx with rest := next true
                                          writes := ⟨k, some v⟩ :: tx.writes
                                          reads := ⟨k, s.db.lookup k⟩ :: tx.reads
                                          held := k :: tx.held } k)
      else none
    | none, none =>
      some (s.goOn i c { tx with rest := next false
                                 reads := ⟨k, s.db.lookup k⟩ :: tx.reads
                                 absent := tx.owe k })
  | .commit r => some (s.finish i c (.committed r) (apply tx.writes s.db))
  | .raise e => some (s.finish i c (.raised e) s.db)

/-- One move of the system, where `body c` is the transaction that serves the request `c`. -/
def step (body : C → Prog V R E) (s : System C V R E) : Label C → Option (System C V R E)
  | .start i c =>
    match s.txs i with
    | .idle => some (s.goOn i c { rest := body c })
    | _ => none
  | .exec i =>
    match s.txs i with
    | .running c tx => stepTx s i c tx
    | _ => none
  | .abort i =>
    match s.txs i with
    | .running c _ => some (s.finish i c .aborted s.db)
    | _ => none

/-- The system over a database with no connection open. -/
def initial (db : AList V) : System C V R E := { db := db }

/-! ### What an open transaction may rely on -/

/-- What is known of the open transaction `i` in the state `s`. -/
structure TxInv (body : C → Prog V R E) (s : System C V R E) (i : ℕ) (c : C) (tx : Tx V R E) :
    Prop where
  /-- On a table that agrees with every row consulted so far, the whole body does what the rest of
  it does after the writes made so far. -/
  path : ∀ t : AList V, (∀ r ∈ tx.reads, t.lookup r.1 = r.2) →
    exec (body c) t = exec tx.rest (apply tx.writes t)
  /-- A row that was found is locked, and still what it was. -/
  present : ∀ k v, ⟨k, some v⟩ ∈ tx.reads → s.owner k = some i ∧ s.db.lookup k = some v
  /-- A row that was not found is still to be inserted, or inserted and still absent outside. -/
  missing : ∀ k, ⟨k, none⟩ ∈ tx.reads → k ∈ tx.absent ∨ (s.owner k = some i ∧ s.db.lookup k = none)
  /-- Every row written is locked. -/
  written : ∀ w ∈ tx.writes, s.owner w.1 = some i
  /-- A key whose insertion is owed has not been written. -/
  owed : ∀ k ∈ tx.absent, k ∉ tx.writes.map Sigma.fst
  /-- A key known to have a row is locked, and the transaction sees a row there. -/
  known : ∀ k ∈ tx.held, s.owner k = some i ∧ ((apply tx.writes s.db).lookup k).isSome
  guarded : Guards tx.absent tx.held tx.rest

/-- Every open transaction is as described. -/
def Inv (body : C → Prog V R E) (s : System C V R E) : Prop :=
  ∀ i c tx, s.txs i = .running c tx → TxInv body s i c tx

/-- A move of transaction `i` that leaves the rows locked by the others alone. -/
structure Frame (s s' : System C V R E) (i : ℕ) : Prop where
  txs : ∀ j, j ≠ i → s'.txs j = s.txs j
  owner : ∀ j k, j ≠ i → s.owner k = some j → s'.owner k = some j
  db : ∀ j k, j ≠ i → s.owner k = some j → s'.db.lookup k = s.db.lookup k

variable {body : C → Prog V R E} {s s' : System C V R E} {tx : Tx V R E} {i j : ℕ}

theorem TxInv.of_frame (hf : Frame s s' i) (hj : j ≠ i) (h : TxInv body s j c tx) :
    TxInv body s' j c tx where
  path := h.path
  present k v hk := by
    obtain ⟨ho, hd⟩ := h.present k v hk
    exact ⟨hf.owner j k hj ho, by rw [hf.db j k hj ho, hd]⟩
  missing k hk := by
    rcases h.missing k hk with ha | ⟨ho, hd⟩
    · exact Or.inl ha
    · exact Or.inr ⟨hf.owner j k hj ho, by rw [hf.db j k hj ho, hd]⟩
  written w hw := hf.owner j w.1 hj (h.written w hw)
  owed := h.owed
  known k hk := by
    obtain ⟨ho, hl⟩ := h.known k hk
    exact ⟨hf.owner j k hj ho, by rwa [lookup_apply_congr tx.writes (hf.db j k hj ho)]⟩
  guarded := h.guarded

/-- A frame move keeps the invariant as soon as the moving transaction keeps its part of it. -/
theorem Inv.of_frame (h : Inv body s) (hf : Frame s s' i)
    (hi : ∀ c tx, s'.txs i = .running c tx → TxInv body s' i c tx) : Inv body s' := by
  intro j c tx hj
  by_cases hji : j = i
  · subst hji
    exact hi c tx hj
  · rw [hf.txs j hji] at hj
    exact (h j c tx hj).of_frame hf hji

theorem frame_goOn (s : System C V R E) (i : ℕ) (c : C) (tx : Tx V R E) :
    Frame s (s.goOn i c tx) i where
  txs _ hj := Function.update_of_ne hj _ _
  owner _ _ _ ho := ho
  db _ _ _ _ := rfl

theorem frame_goOnLocking (hk : s.Free i k) (c : C) (tx : Tx V R E) :
    Frame s (s.goOnLocking i c tx k) i where
  txs j hj := Function.update_of_ne hj _ _
  owner j k' hj ho := by
    by_cases hkk : k' = k
    · subst hkk
      rcases hk with hk | hk <;> rw [hk] at ho
      · exact absurd ho (by simp)
      · exact absurd (Option.some.inj ho).symm hj
    · simp only [System.goOnLocking, Function.update_of_ne hkk]
      exact ho
  db _ _ _ _ := rfl

variable {db : AList V}

theorem frame_finish (hdb : ∀ j k, j ≠ i → s.owner k = some j → db.lookup k = s.db.lookup k)
    (c : C) (o : Outcome R E) : Frame s (s.finish i c o db) i where
  txs j hj := Function.update_of_ne hj _ _
  owner j k hj ho := by
    simp only [System.finish, ho]
    rw [if_neg (by simpa using hj)]
  db := hdb

/-- The rows a transaction has written belong to nobody else, so committing them is a frame
move. -/
theorem TxInv.lookup_apply (h : TxInv body s i c tx) (hj : j ≠ i) (ho : s.owner k = some j) :
    (apply tx.writes s.db).lookup k = s.db.lookup k := by
  refine lookup_apply_of_notMem ?_ s.db
  intro hk
  obtain ⟨w, hw, rfl⟩ := List.mem_map.1 hk
  rw [h.written w hw] at ho
  exact hj (Option.some.inj ho).symm

/-- A committed row that the transaction no longer sees was deleted by the transaction itself. -/
theorem TxInv.owner_of_hidden (h : TxInv body s i c tx) {v : V k}
    (hv : (apply tx.writes s.db).lookup k = none) (hd : s.db.lookup k = some v) :
    s.owner k = some i := by
  by_cases hk : k ∈ tx.writes.map Sigma.fst
  · obtain ⟨w, hw, rfl⟩ := List.mem_map.1 hk
    exact h.written w hw
  · rw [lookup_apply_of_notMem hk, hd] at hv
    exact absurd hv (by simp)

theorem TxInv.path_consult (h : TxInv body s i c tx) (ho : (apply tx.writes s.db).lookup k = o)
    (ht : ∀ r ∈ ⟨k, s.db.lookup k⟩ :: tx.reads, t.lookup r.1 = r.2) :
    exec (body c) t = exec tx.rest (apply tx.writes t) ∧ (apply tx.writes t).lookup k = o := by
  refine ⟨h.path t fun r hr => ht r (List.mem_cons_of_mem _ hr), ?_⟩
  rw [← ho]
  exact lookup_apply_congr tx.writes (ht ⟨k, s.db.lookup k⟩ List.mem_cons_self)

/-- A statement that finds no row and inserts none keeps the invariant; the key is now owed. -/
theorem TxInv.goOn_absent (h : TxInv body s i c tx) (hv : (apply tx.writes s.db).lookup k = none)
    (hexec : ∀ t : AList V, t.lookup k = none → exec tx.rest t = exec p t)
    (hg : Guards (k :: tx.absent) tx.held p) :
    TxInv body (s.goOn i c { tx with rest := p
                                     reads := ⟨k, s.db.lookup k⟩ :: tx.reads
                                     absent := tx.owe k }) i c
      { tx with rest := p
                reads := ⟨k, s.db.lookup k⟩ :: tx.reads
                absent := tx.owe k } where
  path t ht := by
    obtain ⟨hp, hl⟩ := h.path_consult hv ht
    rw [hp]
    exact hexec _ hl
  present k' v hk' := by
    rcases List.mem_cons.1 hk' with he | hk'
    · obtain ⟨rfl, hd⟩ := Sigma.mk.inj he
      have hd : s.db.lookup k' = some v := (eq_of_heq hd).symm
      exact ⟨h.owner_of_hidden hv hd, hd⟩
    · exact h.present k' v hk'
  missing k' hk' := by
    simp only [Tx.owe]
    rcases List.mem_cons.1 hk' with he | hk'
    · obtain ⟨rfl, hd⟩ := Sigma.mk.inj he
      split
      · rename_i hmem
        obtain ⟨w, hw, rfl⟩ := List.mem_map.1 hmem
        exact Or.inr ⟨h.written w hw, (eq_of_heq hd).symm⟩
      · exact Or.inl List.mem_cons_self
    · refine (h.missing k' hk').imp (fun ha => ?_) id
      split
      · exact ha
      · exact List.mem_cons_of_mem _ ha
  written := h.written
  owed k' hk' := by
    simp only [Tx.owe] at hk'
    split at hk'
    · exact h.owed k' hk'
    · rename_i hw
      rcases List.mem_cons.1 hk' with rfl | hk'
      · exact hw
      · exact h.owed k' hk'
  known := h.known
  guarded := by
    refine hg.mono ?_
    simp only [Tx.owe]
    split
    · exact List.subset_cons_self _ _
    · exact List.Subset.refl _

/-- A statement that locks a row, and possibly replaces it, keeps the invariant. -/
theorem TxInv.goOn_locking (h : TxInv body s i c tx) (ws : List (Sigma fun k => Option (V k)))
    (absent : List K) (ho : (apply tx.writes s.db).lookup k = o) (hws : ∀ w ∈ ws, w.1 = k)
    (hexec : ∀ t : AList V, t.lookup k = o → exec tx.rest t = exec p (apply ws t))
    (hsub : absent ⊆ tx.absent) (hk : k ∉ absent)
    (habs : ∀ k' ∈ tx.absent, k' ∈ absent ∨ (k' = k ∧ o = none))
    (hheld : ∀ k' ∈ held, (k' ≠ k ∧ k' ∈ tx.held) ∨
      (k' = k ∧ ∀ t : AList V, t.lookup k = o → ((apply ws t).lookup k).isSome))
    (hg : Guards absent held p) :
    TxInv body (s.goOnLocking i c { rest := p
                                    writes := ws ++ tx.writes
                                    reads := ⟨k, s.db.lookup k⟩ :: tx.reads
                                    absent := absent
                                    held := held } k) i c
      { rest := p
        writes := ws ++ tx.writes
        reads := ⟨k, s.db.lookup k⟩ :: tx.reads
        absent := absent
        held := held } := by
  have howner : ∀ k', s.owner k' = some i →
      (Function.update s.owner k (some i)) k' = some i := by
    intro k' hk'
    by_cases hkk : k' = k
    · subst hkk; simp
    · rw [Function.update_of_ne hkk, hk']
  have hself : (Function.update s.owner k (some i)) k = some i := Function.update_self ..
  have happend : ∀ t : AList V, apply (ws ++ tx.writes) t = apply ws (apply tx.writes t) :=
    fun t => List.foldr_append ..
  constructor
  · intro t ht
    obtain ⟨hp, hl⟩ := h.path_consult ho ht
    rw [hp, hexec _ hl, happend]
  · intro k' v hk'
    rcases List.mem_cons.1 hk' with he | hk'
    · obtain ⟨rfl, hd⟩ := Sigma.mk.inj he
      exact ⟨hself, (eq_of_heq hd).symm⟩
    · obtain ⟨h₁, h₂⟩ := h.present k' v hk'
      exact ⟨howner k' h₁, h₂⟩
  · intro k' hk'
    rcases List.mem_cons.1 hk' with he | hk'
    · obtain ⟨rfl, hd⟩ := Sigma.mk.inj he
      exact Or.inr ⟨hself, (eq_of_heq hd).symm⟩
    · rcases h.missing k' hk' with ha | ⟨h₁, h₂⟩
      · rcases habs k' ha with ha' | ⟨rfl, rfl⟩
        · exact Or.inl ha'
        · -- an owed key was not written, so what the transaction sees is what is committed
          rw [lookup_apply_of_notMem (h.owed k' ha)] at ho
          exact Or.inr ⟨hself, ho⟩
      · exact Or.inr ⟨howner k' h₁, h₂⟩
  · intro w hw
    rcases List.mem_append.1 hw with hw | hw
    · rw [hws w hw]; exact hself
    · exact howner w.1 (h.written w hw)
  · intro k' hk' hmem
    rw [List.map_append] at hmem
    rcases List.mem_append.1 hmem with hmem | hmem
    · obtain ⟨w, hw, rfl⟩ := List.mem_map.1 hmem
      exact hk (hws w hw ▸ hk')
    · exact h.owed k' (hsub hk') hmem
  · intro k' hk'
    rw [happend]
    rcases hheld k' hk' with ⟨hne, hmem⟩ | ⟨rfl, hl⟩
    · obtain ⟨h₁, h₂⟩ := h.known k' hmem
      refine ⟨howner k' h₁, ?_⟩
      rwa [lookup_apply_of_notMem]
      intro hmem
      obtain ⟨w, hw, rfl⟩ := List.mem_map.1 hmem
      exact hne (hws w hw)
    · exact ⟨hself, hl _ ho⟩
  · exact hg

theorem TxInv.notMem_held (h : TxInv body s i c tx) (hv : (apply tx.writes s.db).lookup k = none) :
    k ∉ tx.held := by
  intro hk
  have := (h.known k hk).2
  rw [hv] at this
  exact absurd this (by simp)

omit [DecidableEq K] in
theorem held_cons {P : Prop} (hP : P) : ∀ k' ∈ k :: held, (k' ≠ k ∧ k' ∈ held) ∨ (k' = k ∧ P) := by
  intro k' hk'
  by_cases hkk : k' = k
  · exact Or.inr ⟨hkk, hP⟩
  · exact Or.inl ⟨hkk, (List.mem_cons.1 hk').resolve_left hkk⟩

theorem held_hold {v : V k} (o : Option (Option (V k))) :
    ∀ k' ∈ hold held o, (k' ≠ k ∧ k' ∈ held) ∨
      (k' = k ∧ ∀ t : AList V, t.lookup k = some v →
        ((apply ((o.map fun o => (⟨k, o⟩ : Sigma fun k => Option (V k))).toList) t).lookup k).isSome)
    := by
  intro k' hk'
  match o, hk' with
  | none, hk' => exact held_cons (fun t ht => by simp [ht]) k' hk'
  | some (some w), hk' => exact held_cons (fun t _ => by simp) k' hk'
  | some none, hk' =>
    obtain ⟨hmem, hne⟩ := List.mem_filter.1 hk'
    exact Or.inl ⟨by simpa using hne, hmem⟩

/-! ### Every step keeps the invariant -/

variable {l : Label C}

omit [DecidableEq K] in
theorem goOn_txs_self (s : System C V R E) (i : ℕ) (c : C) (tx : Tx V R E) :
    (s.goOn i c tx).txs i = .running c tx := Function.update_self ..

theorem goOnLocking_txs_self (s : System C V R E) (i : ℕ) (c : C) (tx : Tx V R E) (k : K) :
    (s.goOnLocking i c tx k).txs i = .running c tx := Function.update_self ..

omit [DecidableEq K] in
theorem finish_txs_self (s : System C V R E) (i : ℕ) (c : C) (o : Outcome R E) (db : AList V) :
    (s.finish i c o db).txs i = .done c o := Function.update_self ..

theorem Inv.goOn (h : Inv body s) (htx : TxInv body (s.goOn i c tx) i c tx) :
    Inv body (s.goOn i c tx) := by
  refine h.of_frame (frame_goOn s i c tx) fun c' tx' hi => ?_
  rw [goOn_txs_self] at hi
  cases hi
  exact htx

theorem Inv.goOnLocking (h : Inv body s) (hk : s.Free i k)
    (htx : TxInv body (s.goOnLocking i c tx k) i c tx) : Inv body (s.goOnLocking i c tx k) := by
  refine h.of_frame (frame_goOnLocking hk c tx) fun c' tx' hi => ?_
  rw [goOnLocking_txs_self] at hi
  cases hi
  exact htx

theorem Inv.finish (h : Inv body s)
    (hdb : ∀ j k, j ≠ i → s.owner k = some j → db.lookup k = s.db.lookup k) (c : C)
    (o : Outcome R E) : Inv body (s.finish i c o db) := by
  refine h.of_frame (frame_finish hdb c o) fun c' tx' hi => ?_
  rw [finish_txs_self] at hi
  cases hi

theorem inv_stepTx (h : Inv body s) (hi : s.txs i = .running c tx)
    (hs : stepTx s i c tx = some s') : Inv body s' := by
  have htx := h i c tx hi
  cases hr : tx.rest with
  | select k next =>
    have hg : Guards tx.absent tx.held (.select k next) := hr ▸ htx.guarded
    obtain ⟨hk, hg₀, hg₁⟩ := hg
    simp only [stepTx, hr] at hs
    split at hs
    · rename_i hv
      cases hs
      refine h.goOn (htx.goOn_absent hv (fun t ht => ?_) (hg₀ (htx.notMem_held hv)))
      rw [hr, exec, ht]
    · rename_i v hv
      split at hs
      · rename_i hfree
        cases hs
        refine h.goOnLocking hfree (htx.goOn_locking [] tx.absent hv
          (by simp) (fun t ht => ?_) (List.Subset.refl _) hk (fun _ ha => Or.inl ha)
          (held_cons fun t ht => by simp [ht]) (hg₁ v))
        rw [hr, exec, ht, apply_nil]
      · cases hs
  | insert k v next =>
    have hg : Guards tx.absent tx.held (.insert k v next) := hr ▸ htx.guarded
    simp only [stepTx, hr] at hs
    split at hs
    · split at hs
      · cases hs
      · cases hs
        exact h.finish (fun _ _ _ _ => rfl) c .uniqueViolation
    · rename_i hv
      split at hs
      · rename_i hfree
        cases hs
        refine h.goOnLocking hfree (htx.goOn_locking [⟨k, some v⟩]
          (tx.absent.filter (· ≠ k)) hv (by simp) (fun t ht => ?_)
          (fun _ ha => (List.mem_filter.1 ha).1) (by simp) (fun k' ha => ?_)
          (held_cons fun t _ => by simp) hg)
        · rw [hr, exec, ht, apply_cons, apply_nil]
        · by_cases hkk : k' = k
          · exact Or.inr ⟨hkk, rfl⟩
          · exact Or.inl (List.mem_filter.2 ⟨ha, by simpa using hkk⟩)
      · cases hs
  | write k onRow onAbsent next =>
    have hg : Guards tx.absent tx.held (.write k onRow onAbsent next) := hr ▸ htx.guarded
    obtain ⟨hk, hg₀, hg₁⟩ := hg
    simp only [stepTx, hr] at hs
    split at hs
    · rename_i v hv
      split at hs
      · rename_i hfree
        cases hs
        refine h.goOnLocking hfree (htx.goOn_locking _ _ hv (by simp) (fun t ht => ?_)
          (List.Subset.refl _) hk (fun _ ha => Or.inl ha) (held_hold (onRow v)) (hg₀ v))
        rw [hr, exec, ht]
        cases ho : onRow v with
        | none => simp [replacement, ho]
        | some o => simp [replacement, ho]
      · cases hs
    · rename_i v hv
      split at hs
      · rename_i hfree
        cases hs
        refine h.goOnLocking hfree (htx.goOn_locking [⟨k, some v⟩]
          tx.absent hv (by simp) (fun t ht => ?_) (List.Subset.refl _) hk
          (fun _ ha => Or.inl ha) (held_cons fun t _ => by simp) (hg₁ (htx.notMem_held hv)))
        rw [hr, exec, ht]
        simp [replacement]
      · cases hs
    · rename_i hv
      cases hs
      refine h.goOn (htx.goOn_absent hv (fun t ht => ?_) (hg₁ (htx.notMem_held hv)))
      rw [hr, exec, ht]
      simp [replacement]
  | commit r =>
    simp only [stepTx, hr] at hs
    cases hs
    exact h.finish (fun j k hj ho => htx.lookup_apply hj ho) c (.committed r)
  | raise e =>
    simp only [stepTx, hr] at hs
    cases hs
    exact h.finish (fun _ _ _ _ => rfl) c (.raised e)

/-- **Every move keeps the invariant**, when every request is served by a guarded body. -/
theorem inv_step (hbody : ∀ c, Guards [] [] (body c)) (h : Inv body s)
    (hs : step body s l = some s') : Inv body s' := by
  cases l with
  | start i c =>
    simp only [step] at hs
    split at hs
    · cases hs
      refine h.goOn ?_
      exact { path := fun t _ => rfl
              present := fun _ _ hk => absurd hk (by simp)
              missing := fun _ hk => absurd hk (by simp)
              written := fun _ hw => absurd hw (by simp)
              owed := fun _ hk => absurd hk (by simp)
              known := fun _ hk => absurd hk (by simp)
              guarded := hbody c }
    · cases hs
  | exec i =>
    simp only [step] at hs
    split at hs
    · rename_i c tx hi
      exact inv_stepTx h hi hs
    · cases hs
  | abort i =>
    simp only [step] at hs
    split at hs
    · cases hs
      exact h.finish (fun _ _ _ _ => rfl) _ .aborted
    · cases hs

theorem inv_initial (body : C → Prog V R E) (db : AList V) :
    Inv body (initial db : System C V R E) := by
  intro i c tx hi
  simp [initial] at hi

theorem inv_reachable (hbody : ∀ c, Guards [] [] (body c))
    (h : Runs.Reachable (step body) (initial db) s) : Inv body s :=
  h.invariant (inv_initial body db) fun _ _ _ hi _ hs => inv_step hbody hi hs

/-! ### Committed transactions are serialisable -/

/-- **A transaction that commits is serialisable at its commit**: running its whole body alone on
the database as it stands then gives the same result and the same database. -/
theorem commit_serial (h : Inv body s) (hi : s.txs i = .running c tx) {r : R}
    (hr : tx.rest = .commit r) : exec (body c) s.db = (.committed r, apply tx.writes s.db) := by
  have htx := h i c tx hi
  have habs : tx.absent = [] := by
    have hg := htx.guarded
    rwa [hr] at hg
  have hreads : ∀ rd ∈ tx.reads, s.db.lookup rd.1 = rd.2 := by
    rintro ⟨k, o⟩ hk
    cases o with
    | some v => exact (htx.present k v hk).2
    | none =>
      rcases htx.missing k hk with ha | ⟨-, hd⟩
      · rw [habs] at ha
        exact absurd ha (by simp)
      · exact hd
  rw [htx.path s.db hreads, hr, exec]

/-- What a move does to the committed database and to the one connection it concerns. -/
inductive Move (body : C → Prog V R E) (s s' : System C V R E) : Prop
  /-- A connection begins to serve a request. -/
  | start (i : ℕ) (c : C) (hi : s.txs i = .idle)
      (htxs : s'.txs = Function.update s.txs i (.running c { rest := body c }))
      (hdb : s'.db = s.db)
  /-- A transaction executes a statement and goes on. -/
  | goOn (i : ℕ) (c : C) (tx tx' : Tx V R E) (hi : s.txs i = .running c tx)
      (hs : stepTx s i c tx = some s')
      (hreads : ∃ k, tx'.reads = ⟨k, s.db.lookup k⟩ :: tx.reads)
      (htxs : s'.txs = Function.update s.txs i (.running c tx')) (hdb : s'.db = s.db)
  /-- A transaction commits. -/
  | commit (i : ℕ) (c : C) (tx : Tx V R E) (r : R) (hi : s.txs i = .running c tx)
      (hr : tx.rest = .commit r)
      (htxs : s'.txs = Function.update s.txs i (.done c (.committed r)))
      (hdb : s'.db = apply tx.writes s.db)
  /-- A transaction fails, or is cut off. -/
  | fail (i : ℕ) (c : C) (tx : Tx V R E) (o : Outcome R E) (hi : s.txs i = .running c tx)
      (hs : o ≠ .aborted → stepTx s i c tx = some s') (ho : ∀ r, o ≠ .committed r)
      (htxs : s'.txs = Function.update s.txs i (.done c o)) (hdb : s'.db = s.db)

theorem move_of_step (hs : step body s l = some s') : Move body s s' := by
  cases l with
  | start i c =>
    simp only [step] at hs
    split at hs
    · rename_i hi
      cases hs
      exact .start i c hi rfl rfl
    · cases hs
  | abort i =>
    simp only [step] at hs
    split at hs
    · rename_i c tx hi
      cases hs
      exact .fail i c tx .aborted hi (by simp) (by simp) rfl rfl
    · cases hs
  | exec i =>
    simp only [step] at hs
    split at hs
    · rename_i c tx hi
      have hs' := hs
      cases hr : tx.rest with
      | commit r =>
        simp only [stepTx, hr] at hs
        cases hs
        exact .commit i c tx r hi hr rfl rfl
      | raise e =>
        simp only [stepTx, hr] at hs
        cases hs
        exact .fail i c tx (.raised e) hi (fun _ => hs') (by simp) rfl rfl
      | select k next =>
        simp only [stepTx, hr] at hs
        split at hs
        · cases hs
          exact .goOn i c tx _ hi hs' ⟨k, rfl⟩ rfl rfl
        · split at hs
          · cases hs
            exact .goOn i c tx _ hi hs' ⟨k, rfl⟩ rfl rfl
          · cases hs
      | insert k v next =>
        simp only [stepTx, hr] at hs
        split at hs
        · split at hs
          · cases hs
          · cases hs
            exact .fail i c tx .uniqueViolation hi (fun _ => hs') (by simp) rfl rfl
        · split at hs
          · cases hs
            exact .goOn i c tx _ hi hs' ⟨k, rfl⟩ rfl rfl
          · cases hs
      | write k onRow onAbsent next =>
        simp only [stepTx, hr] at hs
        split at hs
        · split at hs
          · cases hs
            exact .goOn i c tx _ hi hs' ⟨k, rfl⟩ rfl rfl
          · cases hs
        · split at hs
          · cases hs
            exact .goOn i c tx _ hi hs' ⟨k, rfl⟩ rfl rfl
          · cases hs
        · cases hs
          exact .goOn i c tx _ hi hs' ⟨k, rfl⟩ rfl rfl
    · cases hs

/-- What a move means for one connection. -/
inductive Seen (body : C → Prog V R E) (s s' : System C V R E) (j : ℕ) : Prop
  | same (hj : s'.txs j = s.txs j)
  | start (c : C) (hj : s.txs j = .idle) (hj' : s'.txs j = .running c { rest := body c })
  | goOn (c : C) (tx tx' : Tx V R E) (hj : s.txs j = .running c tx)
      (hs : stepTx s j c tx = some s') (hreads : ∃ k, tx'.reads = ⟨k, s.db.lookup k⟩ :: tx.reads)
      (hj' : s'.txs j = .running c tx')
  | commit (c : C) (tx : Tx V R E) (r : R) (hj : s.txs j = .running c tx) (hr : tx.rest = .commit r)
      (hj' : s'.txs j = .done c (.committed r))
  | fail (c : C) (tx : Tx V R E) (o : Outcome R E) (hj : s.txs j = .running c tx)
      (hs : o ≠ .aborted → stepTx s j c tx = some s') (ho : ∀ r, o ≠ .committed r)
      (hj' : s'.txs j = .done c o)

theorem Move.seen (h : Move body s s') (j : ℕ) : Seen body s s' j := by
  have key : ∀ (i : ℕ) (st : Status C V R E), s'.txs = Function.update s.txs i st → j ≠ i →
      Seen body s s' j := by
    intro i st htxs hji
    exact .same (by rw [htxs, Function.update_of_ne hji])
  have self : ∀ (i : ℕ) (st : Status C V R E), s'.txs = Function.update s.txs i st → j = i →
      s'.txs j = st := by
    rintro i st htxs rfl
    rw [htxs, Function.update_self]
  cases h with
  | start i c hi htxs hdb =>
    by_cases hji : j = i
    · exact .start c (hji ▸ hi) (self i _ htxs hji)
    · exact key i _ htxs hji
  | goOn i c tx tx' hi hs hreads htxs hdb =>
    by_cases hji : j = i
    · exact .goOn c tx tx' (hji ▸ hi) (hji ▸ hs) hreads (self i _ htxs hji)
    · exact key i _ htxs hji
  | commit i c tx r hi hr htxs hdb =>
    by_cases hji : j = i
    · exact .commit c tx r (hji ▸ hi) hr (self i _ htxs hji)
    · exact key i _ htxs hji
  | fail i c tx o hi hs ho htxs hdb =>
    by_cases hji : j = i
    · exact .fail c tx o (hji ▸ hi) (hji ▸ hs) ho (self i _ htxs hji)
    · exact key i _ htxs hji

theorem seen_of_step (hs : step body s l = some s') (j : ℕ) :
    Seen body s s' j := (move_of_step hs).seen j

theorem Seen.done (h : Seen body s s' j) {o : Outcome R E} (hj : s.txs j = .done c o) :
    s'.txs j = .done c o := by
  cases h with
  | same h => rw [h, hj]
  | start c' h => simp [hj] at h
  | goOn c' tx tx' h => simp [hj] at h
  | commit c' tx r h => simp [hj] at h
  | fail c' tx o' h => simp [hj] at h

/-- **Where the database changes**: only at the commit of a transaction, whose effect is that of
its body run alone. -/
theorem step_cases (h : Inv body s) (hs : step body s l = some s') :
    (s'.db = s.db ∧
        ∀ i c r, s'.txs i = .done c (.committed r) ↔ s.txs i = .done c (.committed r)) ∨
      ∃ i c tx r, s.txs i = .running c tx ∧ tx.rest = .commit r ∧
        s'.txs = Function.update s.txs i (.done c (.committed r)) ∧
        exec (body c) s.db = (.committed r, s'.db) := by
  have hmove := move_of_step hs
  have key : ∀ (i : ℕ) (st : Status C V R E), (∀ c r, st ≠ .done c (.committed r)) →
      s'.txs = Function.update s.txs i st →
      ∀ j c r, s'.txs j = .done c (.committed r) ↔ s.txs j = .done c (.committed r) := by
    intro i st hst htxs j c r
    refine ⟨fun hj => ?_, (hmove.seen j).done⟩
    by_cases hji : j = i
    · subst hji
      rw [htxs, Function.update_self] at hj
      exact absurd hj (hst c r)
    · rwa [htxs, Function.update_of_ne hji] at hj
  cases hmove with
  | start i c hi htxs hdb => exact Or.inl ⟨hdb, key i _ (by simp) htxs⟩
  | goOn i c tx tx' hi _ _ htxs hdb => exact Or.inl ⟨hdb, key i _ (by simp) htxs⟩
  | commit i c tx r hi hr htxs hdb =>
    exact Or.inr ⟨i, c, tx, r, hi, hr, htxs, by rw [commit_serial h hi hr, hdb]⟩
  | fail i c tx o hi _ ho htxs hdb => exact Or.inl ⟨hdb, key i _ (by simp [ho]) htxs⟩

/-- **The invariant rule for the committed database**: what holds of the first database and is kept
by every body that runs alone holds of the committed database in every state reached. -/
theorem db_invariant (hbody : ∀ c, Guards [] [] (body c)) {I : AList V → Prop}
    (hI : ∀ c t t' r, I t → exec (body c) t = (.committed r, t') → I t') (h₀ : I db)
    (h : Runs.Reachable (step body) (initial db) s) : I s.db := by
  have hboth : Inv body s ∧ I s.db := by
    refine h.invariant (I := fun s => Inv body s ∧ I s.db) ⟨inv_initial body db, h₀⟩ ?_
    rintro s l s' ⟨hinv, hdb⟩ - hs
    refine ⟨inv_step hbody hinv hs, ?_⟩
    rcases step_cases hinv hs with ⟨he, -⟩ | ⟨i, c, tx, r, -, -, -, he⟩
    · rwa [he]
    · exact hI c s.db s'.db r hdb he
  exact hboth.2

/-! ### Whose move it is -/

/-- A statement concerns the connection that executes it. -/
theorem stepTx_txs_of_ne (hs : stepTx s i c tx = some s') (hj : j ≠ i) : s'.txs j = s.txs j := by
  unfold stepTx at hs
  split at hs
  · split at hs
    · cases hs
      exact Function.update_of_ne hj _ _
    · split at hs
      · cases hs
        exact Function.update_of_ne hj _ _
      · cases hs
  · split at hs
    · split at hs
      · cases hs
      · cases hs
        exact Function.update_of_ne hj _ _
    · split at hs
      · cases hs
        exact Function.update_of_ne hj _ _
      · cases hs
  · split at hs
    · split at hs
      · cases hs
        exact Function.update_of_ne hj _ _
      · cases hs
    · split at hs
      · cases hs
        exact Function.update_of_ne hj _ _
      · cases hs
    · cases hs
      exact Function.update_of_ne hj _ _
  · cases hs
    exact Function.update_of_ne hj _ _
  · cases hs
    exact Function.update_of_ne hj _ _

/-- An open transaction goes on, or ends otherwise than by an abort, only in a move of its own. -/
theorem exec_of_ne (hs : step body s l = some s') (hj : s.txs j = .running c tx)
    (hne : s'.txs j ≠ s.txs j) (hab : ∀ c, s'.txs j ≠ .done c .aborted) : l = .exec j := by
  cases l with
  | start i c' =>
    simp only [step] at hs
    split at hs
    · rename_i hi
      cases hs
      by_cases hji : j = i
      · subst hji
        rw [hi] at hj
        cases hj
      · exact absurd (Function.update_of_ne hji _ _) hne
    · cases hs
  | exec i =>
    simp only [step] at hs
    split at hs
    · by_cases hji : j = i
      · rw [hji]
      · exact absurd (stepTx_txs_of_ne hs hji) hne
    · cases hs
  | abort i =>
    simp only [step] at hs
    split at hs
    · cases hs
      by_cases hji : j = i
      · subst hji
        exact absurd (Function.update_self _ _ _) (hab _)
      · exact absurd (Function.update_of_ne hji _ _) hne
    · cases hs

/-- An idle connection opens a transaction only in a move that starts one. -/
theorem start_of_running (hs : step body s l = some s') (hj : s.txs j = .idle)
    (hj' : s'.txs j = .running c tx) : l = .start j c := by
  cases l with
  | start i c' =>
    simp only [step] at hs
    split at hs
    · cases hs
      by_cases hji : j = i
      · subst hji
        rw [goOn_txs_self] at hj'
        cases hj'
        rfl
      · have hsame : (s.goOn i c' { rest := body c' }).txs j = s.txs j :=
          Function.update_of_ne hji _ _
        rw [hsame, hj] at hj'
        cases hj'
    · cases hs
  | exec i =>
    simp only [step] at hs
    split at hs
    · rename_i hi
      have hji : j ≠ i := by
        rintro rfl
        rw [hj] at hi
        cases hi
      rw [stepTx_txs_of_ne hs hji, hj] at hj'
      cases hj'
    · cases hs
  | abort i =>
    simp only [step] at hs
    split at hs
    · rename_i c' _ hi
      cases hs
      have hji : j ≠ i := by
        rintro rfl
        rw [hj] at hi
        cases hi
      have hsame : (s.finish i c' .aborted s.db).txs j = s.txs j := Function.update_of_ne hji _ _
      rw [hsame, hj] at hj'
      cases hj'
    · cases hs

/-! ### Bodies that only read -/

/-- On tables that meet `D` the body writes nothing, and what it ends with meets `P`. -/
def Reads (D : AList V → Prop) (P : Outcome R E → Prop) : Prog V R E → Prop
  | .select k next => ∀ t, D t → Reads D P (next (t.lookup k))
  | .commit r => P (.committed r)
  | .raise e => P (.raised e)
  | .insert .. => False
  | .write .. => False

variable {D : AList V → Prop}

theorem Reads.mono {P Q : Outcome R E → Prop} (hPQ : ∀ o, P o → Q o) (h : Reads D P p) :
    Reads D Q p := by
  induction p with
  | select k next ih => exact fun t ht => ih _ (h t ht)
  | commit r => exact hPQ _ h
  | raise e => exact hPQ _ h
  | insert k v next => exact h.elim
  | write k onRow onAbsent next => exact h.elim

/-- A statement of a body that only reads: it goes on reading, or ends as it should. -/
theorem Reads.stepTx {P : Outcome R E → Prop} (h : Reads D P tx.rest) (hw : tx.writes = [])
    (hD : D s.db) (hs : ReadCommitted.stepTx s i c tx = some s') :
    (∃ tx', s'.txs i = .running c tx' ∧ tx'.writes = [] ∧ Reads D P tx'.rest) ∨
      ∃ o, s'.txs i = .done c o ∧ P o := by
  unfold ReadCommitted.stepTx at hs
  split at hs
  · rename_i k next hrest
    rw [hrest] at h
    have hnext := h s.db hD
    rw [hw, apply_nil] at hs
    split at hs
    · rename_i hk
      cases hs
      rw [hk] at hnext
      exact Or.inl ⟨_, Function.update_self _ _ _, rfl, hnext⟩
    · rename_i v hk
      split at hs
      · cases hs
        rw [hk] at hnext
        exact Or.inl ⟨_, Function.update_self _ _ _, rfl, hnext⟩
      · cases hs
  · rename_i hrest
    rw [hrest] at h
    exact h.elim
  · rename_i hrest
    rw [hrest] at h
    exact h.elim
  · rename_i r hrest
    rw [hrest] at h
    cases hs
    exact Or.inr ⟨_, Function.update_self _ _ _, h⟩
  · rename_i e hrest
    rw [hrest] at h
    cases hs
    exact Or.inr ⟨_, Function.update_self _ _ _, h⟩

end ReadCommitted
