import ChainGauge.Job.MainChain
import ChainGauge.Proofs.Metrics.Samples

/-!
# The course of a scrape

A scrape never reads the registry, so a run of it is told by what its questions bring. Answers may
change from one question to the next (`Answers`), also where the same question is asked twice. The
answers tell what is asked (`Scrape.log`), what is changed (`Scrape.updates`), and which answers are
left for a scrape behind it (`Scrape.left`); `Scrape.Writes` and `Scrape.Asks` bound what is changed and
asked whatever is heard.

## Key results

- `Scrape.exists_perform`: whoever answers, a run is one with some answers
- `Scrape.run_next`: a run makes the changes that its answers tell
- `Scrape.updates_andThen`, `Scrape.log_andThen`: two scrapes in turn
- `Scrape.updates_askEach`: a scrape that asks the same number of questions for each entry of a list
- `Scrape.Writes.family_mem`, `Scrape.Asks.source_mem`: the bounds hold of every run
-/

namespace ChainGauge

/-- A question with what it brought. -/
structure Exchange where
  source : Source
  answer : source.Answer

/-- What the questions of a run bring: for the question of a number, counted from zero, what each
source would bring. -/
abbrev Answers := Nat → (s : Source) → s.Answer

/-- What a question brings that goes unanswered. -/
def Source.unanswered : (s : Source) → s.Answer
  | .netmap | .candidates | .innerRing | .alphabet | .mainAlphabet => none
  | .balance _ _ | .supply _ | .deposit _ | .containerTotal | .containerUsages => none
  | .heights | .roots _ => []

namespace Answers

/-- The answers that are left behind some questions. -/
def drop (a : Answers) (k : Nat) : Answers :=
  fun n => a (n + k)

/-- The answers with others for one question before them. -/
def behind (a : Answers) (first : (s : Source) → s.Answer) : Answers
  | 0 => first
  | n + 1 => a n

/-- Answers the next question. -/
def next (s : Source) : StateM Answers s.Answer :=
  fun a => (a 0 s, a.drop 1)

/-- The same answers all the time. -/
def always (answer : (s : Source) → s.Answer) : Answers :=
  fun _ => answer

/-- What is found for each entry of a list in turn, with `k` questions for each. -/
def each {α β : Type} (found : α → Answers → β) (k : Nat) : List α → Answers → List β
  | [], _ => []
  | x :: xs, a => found x a :: each found k xs (a.drop k)

/-- Answers are left behind several questions at once. -/
theorem drop_drop (a : Answers) (j k : Nat) : (a.drop j).drop k = a.drop (j + k) := by
  funext n
  exact congrArg a (by omega)

@[simp] theorem drop_always (answer : (s : Source) → s.Answer) (k : Nat) :
    (always answer).drop k = always answer := rfl

section Each

variable {α β γ : Type} (found : α → Answers → β) (k : Nat) (xs : List α) (a : Answers)

/-- What is found for entries may be mapped. -/
theorem map_each (f : β → γ) :
    (each found k xs a).map f = each (fun x a => f (found x a)) k xs a := by
  induction xs generalizing a with
  | nil => rfl
  | cons x xs ih => rw [each, List.map_cons, ih, each]

/-- What does not depend on the answers is found for the entries alone. -/
theorem each_const (f : α → β) : each (fun x _ => f x) k xs a = xs.map f := by
  induction xs generalizing a with
  | nil => rfl
  | cons x xs ih => rw [each, ih, List.map_cons]

/-- Entries behind others go by the answers that those leave. -/
theorem each_append (ys : List α) :
    each found k (xs ++ ys) a = each found k xs a ++ each found k ys (a.drop (k * xs.length)) := by
  induction xs generalizing a with
  | nil => rfl
  | cons x xs ih =>
    rw [List.cons_append, each, ih, each, drop_drop, List.length_cons, Nat.mul_succ, Nat.add_comm k,
      List.cons_append]

/-- Entries together with what is found for them. -/
theorem zip_each : xs.zip (each found k xs a) = each (fun x a => (x, found x a)) k xs a := by
  induction xs generalizing a with
  | nil => rfl
  | cons x xs ih => rw [each, List.zip_cons_cons, ih, each]

/-- Where answers are always alike, each entry goes by the same ones. -/
theorem each_always (answer : (s : Source) → s.Answer) :
    each found k xs (always answer) = xs.map fun x => found x (always answer) := by
  induction xs with
  | nil => rfl
  | cons x xs ih => rw [each, drop_always, ih, List.map_cons]

end Each

end Answers

namespace Scrape

/-- The questions of a run with what they brought. -/
def log : Scrape → Answers → List Exchange
  | .done, _ => []
  | .ask source next, a => ⟨source, a 0 source⟩ :: (next (a 0 source)).log (a.drop 1)
  | .publish _ next, a => next.log a

/-- The changes of a run. -/
def updates : Scrape → Answers → List Update
  | .done, _ => []
  | .ask source next, a => (next (a 0 source)).updates (a.drop 1)
  | .publish us next, a => us ++ next.updates a

/-- The answers that a run leaves. -/
def left : Scrape → Answers → Answers
  | .done, a => a
  | .ask source next, a => (next (a 0 source)).left (a.drop 1)
  | .publish _ next, a => next.left a

/-- The registry after a run with some answers. -/
def perform (s : Scrape) (a : Answers) (m : Metrics) : Metrics :=
  ((s.run Answers.next m).run a).1

variable {s t : Scrape} {a : Answers} {us : List Update}

/-- A run makes the changes that its answers tell. -/
theorem run_next (s : Scrape) (a : Answers) (m : Metrics) :
    (s.run Answers.next m).run a = (m.applyAll (s.updates a), s.left a) := by
  induction s generalizing a m with
  | done => rfl
  | ask source next ih => exact ih (a 0 source) (a.drop 1) m
  | publish us next ih =>
    rw [updates, left, Metrics.applyAll_append]
    exact ih a (m.applyAll us)

/-- A scrape makes the changes that its answers tell. -/
theorem perform_eq (s : Scrape) (a : Answers) (m : Metrics) :
    s.perform a m = m.applyAll (s.updates a) := by
  rw [perform, run_next]

/-- A run with anyone who answers, whatever they go by, is a run with some answers. -/
theorem exists_perform {σ : Type} (answer : (source : Source) → StateM σ source.Answer)
    (s : Scrape) (state : σ) (m : Metrics) :
    ∃ a : Answers, ((s.run answer m).run state).1 = s.perform a m := by
  induction s generalizing state m with
  | done => exact ⟨fun _ => Source.unanswered, rfl⟩
  | ask source next ih =>
    obtain ⟨a, ha⟩ := ih ((answer source).run state).1 ((answer source).run state).2 m
    exact ⟨a.behind fun asked => ((answer asked).run state).1, ha⟩
  | publish us next ih => exact ih state (m.applyAll us)

/-! ## Scrapes in turn -/

/-- What changes behind a question. -/
theorem updates_ask (source : Source) (next : source.Answer → Scrape) (a : Answers) :
    (Scrape.ask source next).updates a = (next (a 0 source)).updates (a.drop 1) := rfl

/-- A publication makes its changes. -/
theorem updates_put (us : List Update) (a : Answers) : (put us).updates a = us :=
  List.append_nil us

/-- What changes behind an answer that may be missing. -/
theorem updates_whenSome {α : Type} (x : Option α) (next : α → Scrape) (a : Answers) :
    (whenSome x next).updates a = x.elim [] fun v => (next v).updates a := by
  cases x <;> rfl

/-- The changes of scrapes in turn. -/
theorem updates_andThen (s t : Scrape) (a : Answers) :
    (s.andThen t).updates a = s.updates a ++ t.updates (s.left a) := by
  induction s generalizing a with
  | done => rfl
  | ask source next ih => exact ih (a 0 source) (a.drop 1)
  | publish us next ih => rw [andThen, updates, ih, updates, left, List.append_assoc]

/-- What scrapes in turn ask and hear. -/
theorem log_andThen (s t : Scrape) (a : Answers) :
    (s.andThen t).log a = s.log a ++ t.log (s.left a) := by
  induction s generalizing a with
  | done => rfl
  | ask source next ih => exact congrArg _ (ih (a 0 source) (a.drop 1))
  | publish us next ih => exact ih a

/-- What scrapes in turn leave of the answers. -/
theorem left_andThen (s t : Scrape) (a : Answers) : (s.andThen t).left a = t.left (s.left a) := by
  induction s generalizing a with
  | done => rfl
  | ask source next ih => exact ih (a 0 source) (a.drop 1)
  | publish us next ih => exact ih a

/-- It does not matter how scrapes in turn are put together. -/
private theorem andThen_assoc (s t u : Scrape) :
    (s.andThen t).andThen u = s.andThen (t.andThen u) := by
  induction s with
  | done => rfl
  | ask source next ih =>
    exact congrArg (Scrape.ask source) (funext ih)
  | publish us next ih => exact congrArg (Scrape.publish us) ih

/-- Lists of scrapes in turn. -/
theorem inTurn_append (front back : List Scrape) :
    inTurn (front ++ back) = (inTurn front).andThen (inTurn back) := by
  induction front with
  | nil => rfl
  | cons s front ih => rw [List.cons_append, inTurn, inTurn, ih, andThen_assoc]

/-- Where the questions for an entry are as many each time, the changes are made with what is found for
the entries in turn. -/
theorem updates_askEach {α β : Type} {ask : α → (β → Scrape) → Scrape} {found : α → Answers → β}
    {k : Nat} (hask : ∀ x next a, (ask x next).updates a = (next (found x a)).updates (a.drop k))
    (entries : List α) (next : List β → Scrape) (a : Answers) :
    (askEach entries ask next).updates a =
      (next (a.each found k entries)).updates (a.drop (k * entries.length)) := by
  induction entries generalizing next a with
  | nil => rfl
  | cons x entries ih =>
    rw [askEach, hask, ih, Answers.drop_drop, List.length_cons, Nat.mul_succ, Nat.add_comm k]
    rfl

/-! ## What a scrape may change and ask -/

/-- Whatever a scrape hears, it changes some families only. -/
def Writes (families : List Family) : Scrape → Prop
  | .done => True
  | .ask _ next => ∀ x, (next x).Writes families
  | .publish us next => (∀ u ∈ us, u.family ∈ families) ∧ next.Writes families

/-- Whatever a scrape hears, it asks questions of a kind only. -/
def Asks (P : Source → Prop) : Scrape → Prop
  | .done => True
  | .ask source next => P source ∧ ∀ x, (next x).Asks P
  | .publish _ next => next.Asks P

section Bounds

variable {families : List Family} {P : Source → Prop}

@[simp] theorem writes_done : Scrape.done.Writes families := trivial

/-- A publication writes the families of its changes. -/
@[simp] theorem writes_put : (put us).Writes families ↔ ∀ u ∈ us, u.family ∈ families :=
  iff_of_eq (and_true _)

/-- Scrapes in turn write what both write. -/
theorem writes_andThen (hs : s.Writes families) (ht : t.Writes families) :
    (s.andThen t).Writes families := by
  induction s with
  | done => exact ht
  | ask source next ih => exact fun x => ih x (hs x)
  | publish us next ih => exact ⟨hs.1, ih hs.2⟩

/-- So do any number of them. -/
theorem writes_inTurn {scrapes : List Scrape} (h : ∀ s ∈ scrapes, s.Writes families) :
    (inTurn scrapes).Writes families := by
  induction scrapes with
  | nil => trivial
  | cons s scrapes ih =>
    obtain ⟨hs, hrest⟩ := List.forall_mem_cons.mp h
    exact writes_andThen hs (ih hrest)

/-- A missing answer writes nothing. -/
theorem writes_whenSome {α : Type} {answer : Option α} {next : α → Scrape}
    (h : ∀ a, (next a).Writes families) : (whenSome answer next).Writes families := by
  cases answer with
  | none => trivial
  | some a => exact h a

/-- Questions for entries write what each of them and the rest do. -/
theorem writes_askEach {α β : Type} {entries : List α} {ask : α → (β → Scrape) → Scrape}
    {next : List β → Scrape}
    (hask : ∀ a next, (∀ b, (next b).Writes families) → (ask a next).Writes families)
    (hnext : ∀ bs, (next bs).Writes families) : (askEach entries ask next).Writes families := by
  induction entries generalizing next with
  | nil => exact hnext []
  | cons a entries ih => exact hask a _ fun b => ih fun bs => hnext (b :: bs)

/-- A bound may be wider. -/
theorem Writes.mono {fs gs : List Family} (h : s.Writes fs) (hsub : fs ⊆ gs) : s.Writes gs := by
  induction s with
  | done => trivial
  | ask source next ih => exact fun x => ih x (h x)
  | publish us next ih => exact ⟨fun u hu => hsub (h.1 u hu), ih h.2⟩

@[simp] theorem asks_put : (put us).Asks P := trivial

/-- Scrapes in turn ask what both ask. -/
theorem asks_andThen (hs : s.Asks P) (ht : t.Asks P) : (s.andThen t).Asks P := by
  induction s with
  | done => exact ht
  | ask source next ih => exact ⟨hs.1, fun x => ih x (hs.2 x)⟩
  | publish us next ih => exact ih hs

/-- So do any number of them. -/
theorem asks_inTurn {scrapes : List Scrape} (h : ∀ s ∈ scrapes, s.Asks P) :
    (inTurn scrapes).Asks P := by
  induction scrapes with
  | nil => trivial
  | cons s scrapes ih =>
    obtain ⟨hs, hrest⟩ := List.forall_mem_cons.mp h
    exact asks_andThen hs (ih hrest)

/-- A missing answer asks nothing. -/
theorem asks_whenSome {α : Type} {answer : Option α} {next : α → Scrape}
    (h : ∀ a, (next a).Asks P) : (whenSome answer next).Asks P := by
  cases answer with
  | none => trivial
  | some a => exact h a

/-- Questions for entries ask what each of them and the rest do. -/
theorem asks_askEach {α β : Type} {entries : List α} {ask : α → (β → Scrape) → Scrape}
    {next : List β → Scrape}
    (hask : ∀ a next, (∀ b, (next b).Asks P) → (ask a next).Asks P)
    (hnext : ∀ bs, (next bs).Asks P) : (askEach entries ask next).Asks P := by
  induction entries generalizing next with
  | nil => exact hnext []
  | cons a entries ih => exact hask a _ fun b => ih fun bs => hnext (b :: bs)

/-- Every change of a run is about one of the families. -/
theorem Writes.family_mem (h : s.Writes families) (a : Answers) :
    ∀ u ∈ s.updates a, u.family ∈ families := by
  induction s generalizing a with
  | done => simp [updates]
  | ask source next ih => exact ih _ (h _) _
  | publish us next ih =>
    intro u hu
    exact (List.mem_append.mp hu).elim (h.1 u) (ih h.2 a u)

/-- Every question of a run is of the kind. -/
theorem Asks.source_mem (h : s.Asks P) (a : Answers) : ∀ e ∈ s.log a, P e.source := by
  induction s generalizing a with
  | done => simp [log]
  | ask source next ih =>
    intro e he
    rcases List.mem_cons.mp he with rfl | hrest
    · exact h.1
    · exact ih _ (h.2 _) _ e hrest
  | publish us next ih => exact ih h a

end Bounds

end Scrape

end ChainGauge
