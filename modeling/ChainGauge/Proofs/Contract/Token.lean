import ChainGauge.Contract.Token
import ChainGauge.Proofs.Dialogue

/-!
# Amounts of tokens over a run of calls

A reader is called for balances and total supplies, in any order and of any tokens, and the chain may
answer otherwise each time. What a call asks and gives depends on the calls before it only by the first
valid decimals of its token that were heard (`Turn.Accords`, `amounts_of_run`): those are not asked for
again and scale every later amount of the token, whereas a failed answer leaves nothing behind.

## Key results

- `amount_eq`: what one call asks, gives and remembers
- `Remembers.turn`: a call keeps what is remembered in step with what was heard
- `amounts_of_run`: the turns of a run
-/

namespace ChainGauge.Token

/-- A question with what it brought. -/
abbrev Asked := (q : Query) × q.Reply

/-- What questions bring, by their number. -/
abbrev Replies := Dialogue.Replies Query Query.Reply

/-- A call of the reader. -/
inductive Call where
  | balance (token account : ScriptHash)
  | totalSupply (token : ScriptHash)

namespace Call

/-- The token that a call is about. -/
def token : Call → ScriptHash
  | .balance token _ => token
  | .totalSupply token => token

/-- The method that answers with the count. -/
def method : Call → String
  | .balance _ _ => "balanceOf"
  | .totalSupply _ => "totalSupply"

/-- What the method is invoked with. -/
def params : Call → List Param
  | .balance _ account => [.hash account]
  | .totalSupply _ => []

/-- The invocation for the count, with what it brought. -/
def count (c : Call) (reply : Except ChainError Invocation) : Asked :=
  ⟨.invoke c.token c.method c.params, reply⟩

/-- What the reader does. -/
def reading : Call → Reading Float
  | .balance token account => Token.balance token account
  | .totalSupply token => Token.totalSupply token

/-- Both calls read an amount. -/
private theorem reading_eq (c : Call) : c.reading = amount c.token c.method c.params := by
  cases c with
  | balance token account => rfl
  | totalSupply token => rfl

end Call

/-! ## Replies -/

/-- The item on top of what an invocation left. -/
def readTop (reply : Except ChainError Invocation) : Except ChainError StackItem := do
  let r ← reply
  r.top.mapError .invocation

/-- The count that an invocation brought. -/
def readCount (reply : Except ChainError Invocation) : Except ChainError Int := do
  let top ← readTop reply
  top.integer?.mapError fun e => .shape (.view e)

/-- The decimals of a token that an invocation brought, below `2 ^ 32`. -/
def readDecimals (token : ScriptHash) (reply : Except ChainError Invocation) :
    Except ChainError Nat := do
  let top ← readTop reply
  let n ← top.int64?.mapError fun e => .shape (.view e)
  if 0 ≤ n ∧ n < 0x100000000 then .ok n.toNat else .error (.shape (.decimals n token))

/-- The invocation that answers with the decimals. -/
abbrev decimalsOf (token : ScriptHash) : Query :=
  .invoke token "decimals" []

/-! ## One question -/

section Ask

variable {α : Type} (token : ScriptHash) (method : String) (params : List Param)

/-- Invoking a method asks one question and goes on with the item on top. -/
private theorem run_invokeTop_bind (f : StackItem → Chain α) :
    (Chain.invokeTop token method params >>= f).run =
      .ask (.invoke token method params) fun reply =>
        match readTop reply with
        | .ok item => (f item).run
        | .error e => .done (.error e) := by
  refine congrArg (Dialogue.ask _) (funext fun reply => ?_)
  -- Both sides ask the same question; they agree by what the reply leaves on top.
  cases reply with
  | error e => rfl
  | ok r =>
    have htop : readTop (.ok r) = r.top.mapError .invocation := rfl
    rw [htop]
    change Dialogue.andThen (Dialogue.done (r.top.mapError ChainError.invocation)) _ = _
    cases r.top.mapError ChainError.invocation with
    | error e => rfl
    | ok item => rfl

/-- A view asks nothing, and fails the rest if it fails. -/
private theorem run_view_bind {β : Type} (r : Except StackItem.Fault β) (f : β → Chain α) :
    (Chain.view r >>= f).run =
      match r with
      | .ok x => (f x).run
      | .error e => .done (.error (.shape (.view e))) := by
  cases r with
  | error e => rfl
  | ok x => rfl

/-- The count takes one question. -/
private theorem run_askCount : (askCount token method params).run =
    .ask (.invoke token method params) fun reply => .done (readCount reply) := by
  rw [askCount, run_invokeTop_bind]
  refine congrArg (Dialogue.ask _) (funext fun reply => ?_)
  rw [readCount]
  cases readTop reply with
  | error e => rfl
  | ok item => rfl

/-- So do the decimals. -/
private theorem run_askDecimals : (askDecimals token).run =
    .ask (decimalsOf token) fun reply => .done (readDecimals token reply) := by
  rw [askDecimals, run_invokeTop_bind]
  refine congrArg (Dialogue.ask _) (funext fun reply => ?_)
  rw [readDecimals]
  -- The item on top is viewed as a word, which asks nothing.
  cases readTop reply with
  | error e => rfl
  | ok item =>
    dsimp only
    rw [run_view_bind]
    change _ = Dialogue.done (item.int64?.mapError _ >>= _)
    cases item.int64? with
    | error e => rfl
    | ok n => rfl

end Ask

/-! ## One call -/

section Amount

variable (token : ScriptHash) (method : String) (params : List Param) (known : Decimals) (a : Replies)

/-- A call asks for the count and, where there is one, for the decimals unless they are known. -/
theorem amount_eq : amount token method params known =
    .ask (.invoke token method params) fun reply =>
      match readCount reply, known.lookup token with
      | .error e, _ => .done (.error e, known)
      | .ok count, some d => .done (.ok (Amount.scale count d), known)
      | .ok count, none => .ask (decimalsOf token) fun reply =>
        match readDecimals token reply with
        | .error e => .done (.error e, known)
        | .ok d => .done (.ok (Amount.scale count d), (token, d) :: known) := by
  rw [amount, run_askCount]
  refine congrArg (Dialogue.ask _) (funext fun reply => ?_)
  change Dialogue.andThen (Dialogue.done (readCount reply)) _ = _
  cases readCount reply with
  | error e => rfl
  | ok count =>
    change Dialogue.andThen (decimals token known) _ = _
    rw [decimals]
    -- Known decimals save the second question.
    cases known.lookup token with
    | some d => rfl
    | none =>
      rw [run_askDecimals]
      refine congrArg (Dialogue.ask _) (funext fun reply => ?_)
      change Dialogue.andThen (Dialogue.andThen (Dialogue.done (readDecimals token reply)) _) _ = _
      cases readDecimals token reply with
      | error e => rfl
      | ok d => rfl

end Amount

/-! ## Runs -/

/-- A call with what it asked and gave. -/
structure Turn where
  call : Call
  asked : List Asked
  amount : Except ChainError Float

/-- The turns of calls made one behind the other, by what the reader remembers at their start. -/
def turns : List Call → Decimals → Replies → List Turn
  | [], _, _ => []
  | c :: cs, known, a =>
    let d := c.reading known
    ⟨c, d.transcript a, (d.result a).1⟩ :: turns cs (d.result a).2 (d.left a)

/-- The decimals of a token that an exchange brought, if they are valid. -/
def decimalsIn? (token : ScriptHash) : Asked → Option Nat
  | ⟨.invoke contract method params, reply⟩ =>
    if Query.invoke contract method params = decimalsOf token then
      (readDecimals token reply).toOption
    else none
  | _ => none

/-- The first valid decimals of a token in some turns. -/
def firstDecimals? (token : ScriptHash) (ts : List Turn) : Option Nat :=
  (ts.flatMap (·.asked)).findSome? (decimalsIn? token)

/-- A turn asks for the count first. If that is no integer, it fails. If valid decimals of the token
are known it asks for nothing else and scales the count with them; otherwise it asks for the decimals
once, and either scales the count with what it reads or fails. -/
def Turn.Accords (t : Turn) (known : Option Nat) : Prop :=
  ∃ reply : Except ChainError Invocation,
    match readCount reply, known with
    | .error e, _ => t.asked = [t.call.count reply] ∧ t.amount = .error e
    | .ok count, some d => t.asked = [t.call.count reply] ∧ t.amount = .ok (Amount.scale count d)
    | .ok count, none => ∃ reply',
        t.asked = [t.call.count reply, ⟨decimalsOf t.call.token, reply'⟩] ∧
        t.amount = (readDecimals t.call.token reply').map (Amount.scale count)

section Step

variable (c : Call) (known : Decimals) (a : Replies) (token : ScriptHash)

/-- What a call asks and gives accords with the decimals that were known. -/
private theorem accords_turn : Turn.Accords
    ⟨c, (c.reading known).transcript a, ((c.reading known).result a).1⟩ (known.lookup c.token) := by
  refine ⟨a 0 (.invoke c.token c.method c.params), ?_⟩
  rw [c.reading_eq, amount_eq]
  simp only [Dialogue.transcript_ask, Dialogue.result_ask]
  -- The cases are those of the one call: no count, known decimals, and decimals that are asked for.
  cases readCount (a 0 (.invoke c.token c.method c.params)) with
  | error e => exact ⟨rfl, rfl⟩
  | ok count =>
    cases known.lookup c.token with
    | some d => exact ⟨rfl, rfl⟩
    | none =>
      refine ⟨a 1 (decimalsOf c.token), ?_⟩
      simp only [Dialogue.transcript_ask, Dialogue.result_ask, Dialogue.Replies.later]
      cases readDecimals c.token (a 1 (decimalsOf c.token)) with
      | error e => exact ⟨rfl, rfl⟩
      | ok d => exact ⟨rfl, rfl⟩

/-- The answer to the question for a count tells no decimals. -/
theorem decimalsIn?_count (reply : Except ChainError Invocation) :
    decimalsIn? token ⟨.invoke c.token c.method c.params, reply⟩ = none := by
  cases c with
  | balance t account => simp [Call.method, decimalsIn?]
  | totalSupply t => simp [Call.method, decimalsIn?]

/-- The answer to the question for decimals tells those of its own token. -/
theorem decimalsIn?_decimalsOf (t : ScriptHash) (reply : Except ChainError Invocation) :
    decimalsIn? token ⟨decimalsOf t, reply⟩ =
      if t = token then (readDecimals token reply).toOption else none := by
  simp [decimalsIn?]

/-- What a reader remembers are the valid decimals that were heard, one of each token at most. -/
def Remembers (known : Decimals) (log : List Asked) : Prop :=
  ∀ token, log.filterMap (decimalsIn? token) = (known.lookup token).toList

/-- A call keeps what is remembered in step with what was heard. -/
theorem Remembers.turn {known : Decimals} {log : List Asked} (h : Remembers known log) :
    Remembers ((c.reading known).result a).2 (log ++ (c.reading known).transcript a) := by
  intro token
  rw [List.filterMap_append, h token, c.reading_eq, amount_eq]
  simp only [Dialogue.transcript_ask, Dialogue.result_ask]
  rw [List.filterMap_cons_none (decimalsIn?_count c token _)]
  cases readCount (a 0 (.invoke c.token c.method c.params)) with
  | error e => exact List.append_nil _
  | ok count =>
    cases hknown : known.lookup c.token with
    | some d => exact List.append_nil _
    | none =>
      simp only [Dialogue.transcript_ask, Dialogue.result_ask, List.filterMap_cons,
        decimalsIn?_decimalsOf]
      by_cases htoken : c.token = token
      · subst htoken
        cases hread : readDecimals c.token (a.later 0 (decimalsOf c.token)) with
        | error e => simp [hknown, Except.toOption]
        | ok d => simp [hknown, Except.toOption]
      -- The decimals of another token tell nothing of this one.
      · have hne : (token == c.token) = false := beq_false_of_ne (Ne.symm htoken)
        cases readDecimals c.token (a.later 0 (decimalsOf c.token)) with
        | error e => simp [htoken]
        | ok d => simp [htoken, List.lookup_cons, hne]

end Step

section Run

variable (calls : List Call) (a : Replies)

/-- Every turn of a run accords with the turns in front of it. -/
theorem accords_turns {known : Decimals} {log : List Asked} (h : Remembers known log)
    {earlier later : List Turn} {t : Turn} (hturns : turns calls known a = earlier ++ t :: later) :
    t.Accords ((log ++ earlier.flatMap (·.asked)).findSome? (decimalsIn? t.call.token)) := by
  -- Each call moves what it asked from the turns in front of `t` to the log.
  induction calls generalizing known log earlier a with
  | nil => simp [turns] at hturns
  | cons c calls ih =>
    rw [turns] at hturns
    cases earlier with
    | nil =>
      obtain ⟨rfl, -⟩ := List.cons_eq_cons.mp hturns
      have hfirst : log.findSome? (decimalsIn? c.token) = known.lookup c.token := by
        rw [← List.head?_filterMap, h c.token]
        cases known.lookup c.token <;> rfl
      rw [List.flatMap_nil, List.append_nil, hfirst]
      exact accords_turn c known a
    | cons first earlier =>
      obtain ⟨rfl, hrest⟩ := List.cons_eq_cons.mp hturns
      rw [List.flatMap_cons, ← List.append_assoc]
      exact ih _ (h.turn c a) hrest

/-- At the end of a run the reader remembers what was heard in it. -/
theorem Remembers.turns {known : Decimals} {log : List Asked} (h : Remembers known log) :
    ∃ known', Remembers known' (log ++ (turns calls known a).flatMap (·.asked)) := by
  induction calls generalizing known log a with
  | nil => exact ⟨known, by simpa [Token.turns] using h⟩
  | cons c calls ih =>
    obtain ⟨known', hrest⟩ := ih ((c.reading known).left a) (h.turn c a)
    rw [List.append_assoc] at hrest
    exact ⟨known', hrest⟩

/-- At first nothing is known and nothing was heard. -/
theorem remembers_nil : Remembers [] [] :=
  fun _ => rfl

end Run

end ChainGauge.Token
