import ChainGauge.Job.Tracking
import ChainGauge.Proofs.Dialogue
import ChainGauge.Proofs.Except

/-!
# What the entries of the configuration become

With whatever name service and whatever table of symbols, entries become tasks one by one and in their
order, or the first one that becomes none tells why there are none at all. Accounts are read more
leniently than contracts: one that is no script hash is left out of its task and fails nothing. Of the
entries behind the first that fails nothing is asked, and a name is asked for even where the text is a
hash.

## Key results

- `Tracking.Tables.outcome_bind`, `Tracking.Tables.asked_bind`: what comes of one dialogue behind another,
  and what it asks
- `Tracking.Tables.outcome_tasks`: all entries become tasks as each one does
- `Tracking.tasks_of_tables`: when there are tasks, which ones, and otherwise why not, and what is asked
-/

namespace ChainGauge.Tracking

/-- The names of the native tokens. -/
def aliases : List (String × ScriptHash) :=
  [("NEO", .neo), ("neo", .neo), ("GAS", .gas), ("gas", .gas)]

/-- What a name service and the tokens answer. -/
structure Tables where
  names : String → Except ChainError ScriptHash
  symbols : ScriptHash → Except ChainError String

/-- The accounts of texts: of those that are script hashes, in their order, however often they occur. -/
inductive Accounts : List String → List ScriptHash → Prop where
  | nil : Accounts [] []
  | keep {text : String} {texts : List String} {h : ScriptHash} {hs : List ScriptHash} :
    ScriptHash.parse text = .ok h → Accounts texts hs → Accounts (text :: texts) (h :: hs)
  | skip {text : String} {texts : List String} {e : ScriptHash.Fault} {hs : List ScriptHash} :
    ScriptHash.parse text = .error e → Accounts texts hs → Accounts (text :: texts) hs

namespace Tables

variable (t : Tables)

/-- The answer to a question. -/
def answer : (q : Lookup) → q.Reply
  | .resolve name => t.names name
  | .symbol token => t.symbols token

/-- What comes of a dialogue that the tables answer. -/
def outcome {α : Type} (d : Resolving α) : Except ChainError α :=
  d.run.result fun _ => t.answer

/-- What a dialogue asks of the tables, in turn. -/
def asked {α : Type} (d : Resolving α) : List Lookup :=
  (d.run.transcript fun _ => t.answer).map (·.1)

/-- The contract that a text names: a native token, or else what the name service knows under the text,
or else the hash that the text is. -/
def contract? (text : String) : Option ScriptHash :=
  (aliases.lookup text).or ((t.names text).toOption.or (ScriptHash.parse text).toOption)

/-- Whether an entry names a contract whose symbol can be read. -/
def readable (entry : TrackedEntry) : Bool :=
  ((t.contract? entry.contract).bind fun h => (t.symbols h).toOption).isSome

/-- What has to be asked for an entry: its name unless it is native, and then the symbol of the contract
if there is one. -/
def lookups (entry : TrackedEntry) : List Lookup :=
  (if (aliases.lookup entry.contract).isSome then [] else [.resolve entry.contract]) ++
    (t.contract? entry.contract).toList.map .symbol

/-- An entry becomes a task. -/
structure Becomes (entry : TrackedEntry) (task : TrackedToken) : Prop where
  hash : t.contract? entry.contract = some task.hash
  symbol : t.symbols task.hash = .ok task.symbol
  accounts : Accounts entry.accounts task.accounts
  total : task.total = entry.total
  label : task.label = entry.label

/-- Why an entry becomes no task. -/
inductive Fails (entry : TrackedEntry) : ChainError → Prop where
  | contract {e : ScriptHash.Fault} : t.contract? entry.contract = none →
    ScriptHash.parse entry.contract = .error e →
      Fails entry (.trackedContract entry.contract e)
  | symbol {h : ScriptHash} {e : ChainError} : t.contract? entry.contract = some h →
    t.symbols h = .error e → Fails entry (.during (.symbol entry.contract) e)

/-! ## One dialogue behind another -/

section Bind

variable {α β : Type}

/-- Tables that always answer alike are left as they are. -/
private theorem left_answer {γ : Type} (d : Dialogue Lookup Lookup.Reply γ) :
    d.left (fun _ => t.answer) = fun _ => t.answer := by
  induction d with
  | done x => rfl
  | ask q next ih => exact ih (t.answer q)

/-- What comes of two dialogues in turn. -/
theorem outcome_bind (d : Resolving α) (f : α → Resolving β) :
    t.outcome (d >>= f) = t.outcome d >>= fun x => t.outcome (f x) := by
  show (d.run.andThen _).result _ = _
  rw [Dialogue.result_andThen, left_answer, outcome]
  cases d.run.result fun _ => t.answer <;> rfl

/-- What they ask: the second one only where the first one succeeds. -/
theorem asked_bind (d : Resolving α) (f : α → Resolving β) :
    t.asked (d >>= f) = t.asked d ++
      match t.outcome d with
      | .ok x => t.asked (f x)
      | .error _ => [] := by
  show ((d.run.andThen _).transcript _).map (·.1) = _
  rw [Dialogue.transcript_andThen, left_answer, List.map_append, outcome]
  cases d.run.result fun _ => t.answer <;> rfl

/-- A single question has its answer for an outcome. -/
private theorem outcome_once (q : Lookup)
    (f : q.Reply → Dialogue Lookup Lookup.Reply (Except ChainError α)) :
    t.outcome (ExceptT.mk (Dialogue.once q >>= f)) = t.outcome (ExceptT.mk (f (t.answer q))) := rfl

private theorem asked_once (q : Lookup)
    (f : q.Reply → Dialogue Lookup Lookup.Reply (Except ChainError α)) :
    t.asked (ExceptT.mk (Dialogue.once q >>= f)) = q :: t.asked (ExceptT.mk (f (t.answer q))) := rfl

end Bind

/-! ## One entry -/

variable {t : Tables} {text : String} {entry : TrackedEntry} {task : TrackedToken} {h : ScriptHash}
  {e : ChainError}

/-- The native tokens are those with an alias. -/
private theorem native?_eq (text : String) : native? text = aliases.lookup text := by
  unfold native?
  split
  · rfl
  · rfl
  · rfl
  · rfl
  · rename_i hNEO hneo hGAS hgas
    rw [eq_comm, List.lookup_eq_none_iff]
    simpa [aliases] using ⟨hNEO, hneo, hGAS, hgas⟩

/-- A contract is told by the native names, the name service or the text itself. -/
private theorem outcome_contractOf (t : Tables) (text : String) :
    t.outcome (contractOf text) =
      match t.contract? text with
      | some h => .ok h
      | none => (ScriptHash.parse text).mapError (.trackedContract text) := by
  rw [contract?, contractOf, native?_eq]
  cases aliases.lookup text with
  | some h => rfl
  | none =>
    -- The name is asked for first, whatever the text is.
    refine (t.outcome_once (.resolve text) _).trans ?_
    rw [answer]
    cases t.names text with
    | ok h => rfl
    | error fault => cases ScriptHash.parse text <;> rfl

/-- A text that names no contract is no script hash either. -/
private theorem parse_eq_error_of_contract?_eq_none (h : t.contract? text = none) :
    ∃ fault, ScriptHash.parse text = .error fault := by
  rw [contract?, Option.or_eq_none_iff, Option.or_eq_none_iff] at h
  cases hparse : ScriptHash.parse text with
  | error fault => exact ⟨fault, rfl⟩
  | ok hash => simp [hparse, Except.toOption] at h

/-- A contract is found exactly if the text names it. -/
private theorem outcome_contractOf_eq_ok_iff :
    t.outcome (contractOf text) = .ok h ↔ t.contract? text = some h := by
  rw [outcome_contractOf]
  cases hcontract : t.contract? text with
  | some hash => simp
  | none =>
    obtain ⟨fault, hparse⟩ := parse_eq_error_of_contract?_eq_none hcontract
    simp [hparse, Except.mapError]

/-- None is found exactly if the text names none, and the fault is that of reading a script hash. -/
private theorem outcome_contractOf_eq_error_iff :
    t.outcome (contractOf text) = .error e ↔
      t.contract? text = none ∧
        ∃ fault, ScriptHash.parse text = .error fault ∧ .trackedContract text fault = e := by
  rw [outcome_contractOf]
  cases hcontract : t.contract? text with
  | some hash => simp
  | none =>
    simp only [Except.mapError_eq_error_iff, true_and]

/-- The name service is asked for every text but the aliases. -/
private theorem asked_contractOf (t : Tables) (text : String) :
    t.asked (contractOf text) =
      if (aliases.lookup text).isSome then [] else [.resolve text] := by
  rw [contractOf, native?_eq]
  cases aliases.lookup text with
  | some h => rfl
  | none =>
    refine (t.asked_once (.resolve text) _).trans ?_
    rw [answer]
    cases t.names text <;> rfl

/-- The symbol is the one in the table. -/
private theorem outcome_symbolOf (t : Tables) (text : String) (token : ScriptHash) :
    t.outcome (symbolOf text token) = (t.symbols token).mapError (.during (.symbol text)) := rfl

private theorem asked_symbolOf (t : Tables) (text : String) (token : ScriptHash) :
    t.asked (symbolOf text token) = [.symbol token] := rfl

/-- Accounts are read one by one, and those that do not read are left out. -/
private theorem accounts_iff {texts : List String} {hs : List ScriptHash} :
    Accounts texts hs ↔ hs = accountsOf texts := by
  -- Both follow the texts: one that is a hash is kept, any other one is skipped.
  constructor
  · intro haccounts
    induction haccounts with
    | nil => rfl
    | keep hparse _ ih => rw [ih, accountsOf, accountsOf, List.filterMap_cons, hparse]; rfl
    | skip hparse _ ih => rw [ih, accountsOf, accountsOf, List.filterMap_cons, hparse]; rfl
  · rintro rfl
    induction texts with
    | nil => exact .nil
    | cons text texts ih =>
      rw [accountsOf, List.filterMap_cons]
      cases hparse : ScriptHash.parse text with
      | ok h => exact .keep hparse ih
      | error e => exact .skip hparse ih

/-- What comes of an entry, from its contract and its symbol. -/
private theorem outcome_task (t : Tables) (entry : TrackedEntry) :
    t.outcome (Tracking.task entry) =
      t.outcome (contractOf entry.contract) >>= fun hash =>
        ((t.symbols hash).mapError (.during (.symbol entry.contract))).map fun symbol =>
          ⟨symbol, hash, accountsOf entry.accounts, entry.total, entry.label⟩ := by
  rw [Tracking.task, outcome_bind]
  refine congrArg _ (funext fun hash => ?_)
  rw [outcome_bind, outcome_symbolOf]
  cases t.symbols hash <;> rfl

/-- An entry becomes a task exactly as it should. -/
private theorem outcome_task_eq_ok_iff :
    t.outcome (Tracking.task entry) = .ok task ↔ t.Becomes entry task := by
  simp only [outcome_task, Except.bind_eq_ok_iff, Except.map_eq_ok_iff, Except.mapError_eq_ok_iff,
    outcome_contractOf_eq_ok_iff]
  constructor
  · rintro ⟨hash, hcontract, symbol, hsymbol, rfl⟩
    exact ⟨hcontract, hsymbol, accounts_iff.mpr rfl, rfl, rfl⟩
  · rintro ⟨hhash, hsymbol, haccounts, htotal, hlabel⟩
    refine ⟨task.hash, hhash, task.symbol, hsymbol, ?_⟩
    rw [← accounts_iff.mp haccounts, ← htotal, ← hlabel]

/-- It fails exactly as it should. -/
private theorem outcome_task_eq_error_iff :
    t.outcome (Tracking.task entry) = .error e ↔ t.Fails entry e := by
  simp only [outcome_task, Except.bind_eq_error_iff, outcome_contractOf_eq_ok_iff,
    outcome_contractOf_eq_error_iff]
  -- An entry fails by its contract, or by the symbol of this contract.
  constructor
  · rintro (⟨hcontract, fault, hparse, rfl⟩ | ⟨hash, hcontract, hsymbol⟩)
    · exact .contract hcontract hparse
    · cases hread : t.symbols hash with
      | ok symbol => simp [hread, Except.mapError, Except.map] at hsymbol
      | error fault =>
        simp only [hread, Except.mapError, Except.map, Except.error.injEq] at hsymbol
        exact hsymbol ▸ .symbol hcontract hread
  · rintro (⟨hcontract, hparse⟩ | ⟨hcontract, hread⟩)
    · exact .inl ⟨hcontract, _, hparse, rfl⟩
    · refine .inr ⟨_, hcontract, ?_⟩
      rw [hread]
      rfl

/-- What is asked for an entry are its lookups. -/
private theorem asked_task (t : Tables) (entry : TrackedEntry) :
    t.asked (Tracking.task entry) = t.lookups entry := by
  rw [Tracking.task, asked_bind, asked_contractOf, lookups, outcome_contractOf]
  cases hcontract : t.contract? entry.contract with
  | some hash =>
    simp only [asked_bind, asked_symbolOf]
    cases t.outcome (symbolOf entry.contract hash) <;> rfl
  | none =>
    obtain ⟨fault, hparse⟩ := parse_eq_error_of_contract?_eq_none hcontract
    rw [hparse]
    rfl

/-- An entry is readable exactly if it becomes a task. -/
private theorem readable_iff :
    t.readable entry ↔
      ∃ h symbol, t.contract? entry.contract = some h ∧ t.symbols h = .ok symbol := by
  simp only [readable, Option.isSome_iff_exists, Option.bind_eq_some_iff,
    Except.toOption_eq_some_iff]
  constructor
  · rintro ⟨symbol, h, hcontract, hsymbol⟩
    exact ⟨h, symbol, hcontract, hsymbol⟩
  · rintro ⟨h, symbol, hcontract, hsymbol⟩
    exact ⟨symbol, h, hcontract, hsymbol⟩

/-- There is a task exactly for a readable entry. -/
private theorem exists_task_iff :
    (∃ task, t.outcome (Tracking.task entry) = .ok task) ↔ t.readable entry := by
  simp only [outcome_task_eq_ok_iff, readable_iff]
  constructor
  · rintro ⟨task, hbecomes⟩
    exact ⟨task.hash, task.symbol, hbecomes.hash, hbecomes.symbol⟩
  · rintro ⟨h, symbol, hcontract, hsymbol⟩
    exact ⟨⟨symbol, h, accountsOf entry.accounts, entry.total, entry.label⟩,
      hcontract, hsymbol, accounts_iff.mpr rfl, rfl, rfl⟩

/-! ## All entries -/

/-- All entries become tasks as each one does. -/
theorem outcome_tasks (t : Tables) (entries : List TrackedEntry) :
    t.outcome (tasks entries) = entries.mapM fun entry => t.outcome (Tracking.task entry) := by
  induction entries with
  | nil => rfl
  | cons entry rest ih =>
    rw [tasks, outcome_bind, List.mapM_cons]
    refine congrArg _ (funext fun task => ?_)
    rw [outcome_bind, ih]
    rfl

/-- All is asked for the entries up to the first that becomes no task, and nothing behind it. -/
private theorem asked_tasks (t : Tables) (entries : List TrackedEntry) :
    t.asked (tasks entries) =
      (entries.takeWhile t.readable ++ (entries.dropWhile t.readable).take 1).flatMap t.lookups := by
  induction entries with
  | nil => rfl
  | cons entry rest ih =>
    rw [tasks, asked_bind, asked_task]
    cases htask : t.outcome (Tracking.task entry) with
    | ok task =>
      -- What is done with the tasks of the rest asks nothing.
      have hreadable : t.readable entry := exists_task_iff.mp ⟨task, htask⟩
      have hrest : t.asked (tasks rest >>= fun ts => pure (task :: ts)) = t.asked (tasks rest) := by
        rw [asked_bind]
        cases t.outcome (tasks rest) <;> exact List.append_nil _
      rw [List.takeWhile_cons_of_pos hreadable, List.dropWhile_cons_of_pos hreadable,
        List.cons_append, List.flatMap_cons, ← ih, ← hrest]
    | error e =>
      have hunreadable : ¬ t.readable entry := by
        rw [← exists_task_iff]
        rintro ⟨task, hok⟩
        rw [hok] at htask
        cases htask
      rw [List.takeWhile_cons_of_neg hunreadable, List.dropWhile_cons_of_neg hunreadable]
      simp

end Tables

/-- There are tasks exactly if every entry names a contract whose symbol can be read: one for each entry,
in their order. Otherwise the first entry that becomes no task tells why. What is asked is what the
entries need up to there. -/
theorem tasks_of_tables (t : Tables) (entries : List TrackedEntry) :
    ((∃ ts, t.outcome (tasks entries) = .ok ts) ↔
      ∀ entry ∈ entries, ∃ h symbol,
        t.contract? entry.contract = some h ∧ t.symbols h = .ok symbol) ∧
    (∀ ts, t.outcome (tasks entries) = .ok ts ↔ List.Forall₂ t.Becomes entries ts) ∧
    (∀ e, t.outcome (tasks entries) = .error e ↔
      ∃ (i : Nat) (entry : TrackedEntry), entries[i]? = some entry ∧ t.Fails entry e ∧
        ∀ j < i, ∀ before, entries[j]? = some before → t.readable before) ∧
    t.asked (tasks entries) =
      (entries.takeWhile t.readable ++ (entries.dropWhile t.readable).take 1).flatMap t.lookups := by
  -- The tasks are a walk over the entries that stops at the first failure.
  have hok (ts : List TrackedToken) :
      t.outcome (tasks entries) = .ok ts ↔ List.Forall₂ t.Becomes entries ts := by
    simp only [t.outcome_tasks, Except.mapM_eq_ok_iff, Tables.outcome_task_eq_ok_iff]
  refine ⟨?_, hok, fun e => ?_, t.asked_tasks entries⟩
  · simp only [t.outcome_tasks, Except.exists_mapM_eq_ok_iff, Tables.exists_task_iff,
      Tables.readable_iff]
  · simp only [t.outcome_tasks, Except.mapM_eq_error_iff, Tables.exists_task_iff,
      Tables.outcome_task_eq_error_iff]

end ChainGauge.Tracking
