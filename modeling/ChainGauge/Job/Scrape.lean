import ChainGauge.Metrics.Registry
import ChainGauge.Node.Node

/-!
# Scrapes

A scrape reads the state of a chain and publishes it. It is a program of questions to the chain and
changes of the registry; a question may go unanswered, which a scrape takes note of only by what it
does not publish. Between two questions a scrape cannot be interrupted, so it may be cut off exactly
at a question.
-/

namespace ChainGauge

/-- A question of a scrape. -/
inductive Source where
  | netmap
  | candidates
  | innerRing
  | alphabet
  | mainAlphabet
  /-- The balance of an account. -/
  | balance (token account : ScriptHash)
  /-- The total supply of a token. -/
  | supply (token : ScriptHash)
  /-- The notary deposit of an account. -/
  | deposit (account : ScriptHash)
  | containerTotal
  | containerUsages
  /-- The state heights of all hosts that answer. -/
  | heights
  /-- The state roots at a height of all hosts that answer. -/
  | roots (height : Nat)
  deriving DecidableEq

/-- What a question brings; `none` where it went unanswered. -/
abbrev Source.Answer : Source → Type
  | .netmap => Option Netmap
  | .candidates => Option (List Candidate)
  | .innerRing | .alphabet | .mainAlphabet => Option (List PublicKey)
  | .balance _ _ | .supply _ | .deposit _ => Option Float
  | .containerTotal => Option Nat
  | .containerUsages => Option (List ContainerUsage)
  | .heights => List (String × Nat)
  | .roots _ => List (String × String)

/-- A program of questions and changes. -/
inductive Scrape where
  | done
  | ask (source : Source) (next : source.Answer → Scrape)
  | publish (updates : List Update) (next : Scrape)

namespace Scrape

/-- One scrape after another. -/
def andThen : Scrape → Scrape → Scrape
  | .done, b => b
  | .ask source next, b => .ask source fun x => (next x).andThen b
  | .publish updates next, b => .publish updates (next.andThen b)

/-- Several scrapes, one after another. -/
def inTurn : List Scrape → Scrape
  | [] => .done
  | s :: rest => s.andThen (inTurn rest)

/-- Asks a question for each entry of a list and goes on with the answers. -/
def askEach {α β : Type} (entries : List α) (ask : α → (β → Scrape) → Scrape)
    (next : List β → Scrape) : Scrape :=
  match entries with
  | [] => next []
  | a :: rest => ask a fun b => askEach rest ask fun bs => next (b :: bs)

/-- Goes on with an answer, or ends where there is none. -/
def whenSome {α : Type} (answer : Option α) (next : α → Scrape) : Scrape :=
  match answer with
  | some a => next a
  | none => .done

/-- Publishes and ends. -/
def put (updates : List Update) : Scrape :=
  .publish updates .done

/-- Runs a scrape on a registry with someone who answers. -/
def run {m : Type → Type} [Monad m] (answer : (s : Source) → m s.Answer) :
    Scrape → Metrics → m Metrics
  | .done, metrics => pure metrics
  | .ask source next, metrics => do
    let x ← answer source
    run answer (next x) metrics
  | .publish updates next, metrics => run answer next (metrics.applyAll updates)

/-- The part of a scrape before its question of number `n`, counted from zero: all that is done of a
scrape that is cut off there. -/
def upTo : Nat → Scrape → Scrape
  | _, .done => .done
  | 0, .ask _ _ => .done
  | n + 1, .ask source next => .ask source fun x => (next x).upTo n
  | n, .publish updates next => .publish updates (next.upTo n)

end Scrape

end ChainGauge
