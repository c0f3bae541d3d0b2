import ChainGauge.Proofs.Except
import ChainGauge.Proofs.Rpc.Session
import Mathlib.Logic.Function.Basic

/-!
# Pages of an iterator

A node hands out the items of an iterator in pages, and the end is a page without items. A traversal
asks for one page behind the other and for nothing else, so it sends one request more than there are
pages with items, and its result is all items in their order, or the fault that came in place of a page
(`Endpoint.items_of_pages`). What comes of ending the session counts for nothing.

## Key results

- `Endpoint.requests_pages`, `Endpoint.result_pages`: the pages of an iterator, by induction on them
- `Endpoint.items_of_pages`: a whole traversal
-/

namespace ChainGauge

/-- The request that invokes a method. -/
def Request.invoking (number : Nat) (contract : ScriptHash) (method : String)
    (params : List Param) : Request :=
  ⟨number, "invokefunction",
    [.string ("0x" ++ contract.toHex), .string method, .array (params.map (·.toJson))]⟩

/-- The request for the next page of an iterator. -/
def Request.paging (number : Nat) (session iterator : String) (size : Nat) : Request :=
  ⟨number, "traverseiterator", [.string session, .string iterator, .nat size]⟩

/-! ## What comes of calls -/

namespace Calls

variable {α β : Type} (c : Calls α) (f : α → Calls β) (n : Nat) (a : Deliveries)

/-- The requests that calls send. -/
def requests : List Request :=
  (c.transcript n a).map (·.1)

/-- Calls that go on with others come to what those come to. -/
private theorem result_bind : (c >>= f).result n a =
    match c.result n a with
    | (.ok x, m) => (f x).result m (c.left n a)
    | (.error e, m) => (.error e, m) := by
  rw [result, run_bind, Dialogue.result_andThen]
  show _ = match (c.run.run n).result a with
    | (.ok x, m) => (f x).result m (c.left n a)
    | (.error e, m) => (.error e, m)
  rcases (c.run.run n).result a with ⟨_ | x, m⟩
  · rfl
  · rfl

/-- Calls in turn make the requests of the first ones and, if these succeed, of the others. -/
private theorem requests_bind : (c >>= f).requests n a = c.requests n a ++
    match c.result n a with
    | (.ok x, m) => (f x).requests m (c.left n a)
    | (.error _, _) => [] := by
  rw [requests, transcript_bind, List.map_append]
  congr 1
  rcases c.result n a with ⟨_ | x, m⟩
  · rfl
  · rfl

/-- Changing a result sends nothing. -/
private theorem requests_bind_pure (g : α → β) : (c >>= fun x => pure (g x)).requests n a =
    c.requests n a := by
  rw [requests_bind]
  rcases c.result n a with ⟨_ | x, m⟩
  · exact List.append_nil _
  · exact List.append_nil _

/-- A value may be mapped behind the calls. -/
private theorem result_bind_pure (g : α → β) : (c >>= fun x => pure (g x)).result n a =
    ((c.result n a).1.map g, (c.result n a).2) := by
  rw [result_bind]
  rcases c.result n a with ⟨_ | x, m⟩
  · rfl
  · rfl

/-- Behind an attempt the requests go on in any case. -/
private theorem requests_attempt_bind (f : Except ChainError α → Calls β) :
    (attempt c >>= f).requests n a = c.requests n a ++
      (f (c.result n a).1).requests (c.result n a).2 (c.left n a) := by
  rw [requests, transcript_attempt_bind, List.map_append]
  rfl

/-- Calls that are tried hand on whatever comes of them. -/
private theorem result_attempt_bind (f : Except ChainError α → Calls β) :
    (attempt c >>= f).result n a =
      (f (c.result n a).1).result (c.result n a).2 (c.left n a) := by
  rw [result, run_attempt_bind, Dialogue.result_andThen, Dialogue.result_andThen,
    Dialogue.left_andThen]
  rfl

end Calls

namespace Endpoint

variable (e : Endpoint) {n : Nat} {a : Deliveries}

/-- A call takes one delivery. -/
private theorem left_call {α : Type} {method : String} {params : List Json} {read : Json.Reader α}
    (htakes : e.takesRequests) : (e.call method params read).left n a = a.later := by
  simp only [call, htakes]
  rfl

/-! ## Pages -/

/-- The page that an exchange brought. -/
def pageOf (d : Delivery) : Except CallFault (List StackItem) :=
  readDelivery e.url.text "traverseiterator" Json.readStack d

section Pages

variable {session iterator : String} {size limit : Nat} {pages : List (List StackItem)}
  {stop : Except CallFault Unit}

/-- What a node brings to the requests for pages, the first of which has a number: pages with items,
and in the end a page without items or a fault. -/
inductive Hands (session iterator : String) (size : Nat) :
    Nat → Deliveries → List (List StackItem) → Except CallFault Unit → Prop where
  | done {n : Nat} {a : Deliveries} :
    e.pageOf (a 0 (.paging n session iterator size)) = .ok [] →
      Hands session iterator size n a [] (.ok ())
  | failed {n : Nat} {a : Deliveries} {fault : CallFault} :
    e.pageOf (a 0 (.paging n session iterator size)) = .error fault →
      Hands session iterator size n a [] (.error fault)
  | page {n : Nat} {a : Deliveries} {items : List StackItem} {pages : List (List StackItem)}
    {stop : Except CallFault Unit} :
    e.pageOf (a 0 (.paging n session iterator size)) = .ok items → items ≠ [] →
      Hands session iterator size (n + 1) a.later pages stop →
        Hands session iterator size n a (items :: pages) stop

/-- Only what the requests for pages bring counts. -/
theorem Hands.congr {b : Deliveries} (h : e.Hands session iterator size n a pages stop)
    (hsame : ∀ i ≤ pages.length, b i = a i) : e.Hands session iterator size n b pages stop := by
  induction h generalizing b with
  | done hpage => exact .done ((hsame 0 (Nat.zero_le _)).symm ▸ hpage)
  | failed hpage => exact .failed ((hsame 0 (Nat.zero_le _)).symm ▸ hpage)
  | page hpage hne _ ih =>
    apply Hands.page ((hsame 0 (Nat.zero_le _)).symm ▸ hpage) hne
    apply ih
    intro i hi
    exact hsame (i + 1) (Nat.succ_le_succ hi)

/-- What comes of the request for a page. -/
private theorem result_page (htakes : e.takesRequests) :
    (e.page session iterator size).result n a =
      ((e.pageOf (a 0 (.paging n session iterator size))).mapError .call, n + 1) := by
  rw [page, result_call, if_pos htakes]
  rfl

/-- A page takes one request. -/
private theorem requests_page (htakes : e.takesRequests) :
    (e.page session iterator size).requests n a = [.paging n session iterator size] := by
  rw [Calls.requests, page, transcript_call, if_pos htakes]
  rfl

/-- The first page decides whether there is another request. -/
private theorem requests_pages_succ (htakes : e.takesRequests) :
    (e.pages session iterator size (limit + 1)).requests n a =
      .paging n session iterator size ::
        match e.pageOf (a 0 (.paging n session iterator size)) with
        | .ok (_ :: _) => (e.pages session iterator size limit).requests (n + 1) a.later
        | _ => [] := by
  rw [Endpoint.pages, Calls.requests_bind, e.requests_page htakes, e.result_page htakes,
    List.singleton_append]
  congr 1
  -- Only a page with items is followed by another request.
  rcases e.pageOf (a 0 (.paging n session iterator size)) with _ | _ | ⟨item, items⟩
  · rfl
  · rfl
  · show (_ >>= _ : Calls _).requests (n + 1) _ = _
    rw [Calls.requests_bind_pure, page, e.left_call htakes]

/-- Pages are read up to an empty one or one that fails. -/
private theorem result_pages_succ (htakes : e.takesRequests) :
    (e.pages session iterator size (limit + 1)).result n a =
      match e.pageOf (a 0 (.paging n session iterator size)) with
      | .ok [] => (.ok [], n + 1)
      | .ok items =>
        let more := (e.pages session iterator size limit).result (n + 1) a.later
        (more.1.map (items ++ ·), more.2)
      | .error fault => (.error (.call fault), n + 1) := by
  rw [Endpoint.pages, Calls.result_bind, e.result_page htakes]
  -- Split in the same three as the requests.
  rcases e.pageOf (a 0 (.paging n session iterator size)) with _ | _ | ⟨item, items⟩
  · rfl
  · rfl
  · show (_ >>= _ : Calls _).result (n + 1) _ = _
    rw [Calls.result_bind_pure, page, e.left_call htakes]

/-- There is one request for each page with items, and one more. -/
theorem requests_pages (htakes : e.takesRequests)
    (h : e.Hands session iterator size n a pages stop) (hlimit : pages.length ≤ limit) :
    (e.pages session iterator size (limit + 1)).requests n a =
      (List.range (pages.length + 1)).map fun i => .paging (n + i) session iterator size := by
  -- The induction follows what the node hands out; the limit only has to outlast it.
  induction h generalizing limit with
  | done hpage =>
    rw [e.requests_pages_succ htakes, hpage]
    rfl
  | failed hpage =>
    rw [e.requests_pages_succ htakes, hpage]
    rfl
  | @page n a items pages stop hpage hne _ ih =>
    obtain ⟨limit, rfl⟩ := Nat.exists_eq_add_of_le' (Nat.one_le_of_lt hlimit)
    obtain ⟨item, rest, rfl⟩ := List.exists_cons_of_ne_nil hne
    rw [e.requests_pages_succ htakes, hpage, List.length_cons,
      List.range_succ_eq_map (n := pages.length + 1), List.map_cons, List.map_map]
    dsimp only
    rw [ih (Nat.le_of_succ_le_succ hlimit)]
    congr 1
    apply List.map_congr_left
    intro i _
    show Request.paging (n + 1 + i) _ _ _ = .paging (n + (i + 1)) _ _ _
    rw [Nat.add_assoc, Nat.add_comm 1]

/-- All pages come in their order, or the fault that came in place of one. -/
theorem result_pages (htakes : e.takesRequests)
    (h : e.Hands session iterator size n a pages stop) (hlimit : pages.length ≤ limit) :
    (e.pages session iterator size (limit + 1)).result n a =
      ((stop.map fun _ => pages.flatten).mapError .call, n + (pages.length + 1)) := by
  induction h generalizing limit with
  | done hpage =>
    rw [e.result_pages_succ htakes, hpage]
    rfl
  | failed hpage =>
    rw [e.result_pages_succ htakes, hpage]
    rfl
  -- A page with items uses up one of the limit, so the limit stays above the pages left.
  | @page n a items pages stop hpage hne _ ih =>
    obtain ⟨limit, rfl⟩ := Nat.exists_eq_add_of_le' (Nat.one_le_of_lt hlimit)
    obtain ⟨item, rest, rfl⟩ := List.exists_cons_of_ne_nil hne
    rw [e.result_pages_succ htakes, hpage]
    dsimp only
    rw [ih (Nat.le_of_succ_le_succ hlimit), List.flatten_cons, List.length_cons,
      Nat.add_right_comm, Nat.add_assoc]
    cases stop with
    | error fault => rfl
    | ok _ => rfl

end Pages

/-! ## Traversals -/

section Traverse

variable {contract : ScriptHash} {method session iterator : String} {params : List Param}
  {size limit : Nat} {r : Invocation} {pages : List (List StackItem)}
  {stop : Except CallFault Unit}

/-- An iterator in a session is read page by page, and then its session is ended. -/
private theorem iterate_eq (hstate : r.state = "HALT")
    (htop : r.stack.getLast? = some (.interop (some iterator))) (hsession : r.session = some session) :
    e.iterate limit method size r =
      Calls.attempt (e.pages session iterator size limit) >>= fun items =>
        e.endSession session >>= fun _ => Calls.outcome items := by
  have hitem := Invocation.top_eq_ok_iff.mpr ⟨hstate, htop⟩
  rw [iterate, hitem, hsession]
  rfl

/-- An invocation takes one request. -/
private theorem requests_invoke (htakes : e.takesRequests) :
    (e.invoke contract method params).requests n a = [.invoking n contract method params] := by
  rw [Calls.requests, invoke, transcript_call, if_pos htakes]
  rfl

/-- It brings what is read of the delivery. -/
private theorem result_invoke (htakes : e.takesRequests)
    (hread : readDelivery e.url.text "invokefunction" Json.readInvocation
      (a 0 (.invoking n contract method params)) = .ok r) :
    (e.invoke contract method params).result n a = (.ok r, n + 1) := by
  rw [invoke, result_call, if_pos htakes]
  exact congrArg (fun x => (Except.mapError ChainError.call x, n + 1)) hread

/-- Ending a session takes one request. -/
private theorem requests_endSession {α : Type} (htakes : e.takesRequests) (session : String)
    (result : Except ChainError α) :
    (e.endSession session >>= fun _ => Calls.outcome result).requests n a =
      [.ending n session] := by
  rw [Calls.requests, e.transcript_endSession htakes]
  rfl

/-- Ending a session does not touch the result in front of it. -/
private theorem result_endSession {α : Type} (session : String) (result : Except ChainError α) :
    (e.endSession session >>= fun _ => Calls.outcome result).result n a = (result, n + 1) := by
  have hend : (e.endSession session).result n a = (.ok (), n + 1) := by
    rw [endSession, Calls.result_attempt_bind, result_call]
    rfl
  rw [Calls.result_bind, hend]
  rfl

/-- A node answers an invocation with an iterator in a session, and then hands out its pages. -/
structure Serves (contract : ScriptHash) (method : String) (params : List Param) (size n : Nat)
    (a : Deliveries) (session iterator : String) (pages : List (List StackItem))
    (stop : Except CallFault Unit) : Prop where
  invocation : ∃ r,
    readDelivery e.url.text "invokefunction" Json.readInvocation
      (a 0 (.invoking n contract method params)) = .ok r ∧
    r.state = "HALT" ∧ r.session = some session ∧
    r.stack.getLast? = some (.interop (some iterator))
  pages : e.Hands session iterator size (n + 1) a.later pages stop

/-- The requests and the result of a traversal of an iterator. -/
private theorem traverse_of_serves (htakes : e.takesRequests)
    (hserves : e.Serves contract method params size n a session iterator pages stop)
    (hlimit : pages.length < limit) :
    (e.traverse limit contract method params size).requests n a =
      .invoking n contract method params ::
        (List.range (pages.length + 1)).map (fun i => .paging (n + 1 + i) session iterator size) ++
          [.ending (n + 1 + (pages.length + 1)) session] ∧
    (e.traverse limit contract method params size).result n a =
      ((stop.map fun _ => pages.flatten).mapError .call, n + 1 + (pages.length + 1) + 1) := by
  obtain ⟨⟨r, hread, hstate, hsession, htop⟩, hpages⟩ := hserves
  obtain ⟨limit, rfl⟩ := Nat.exists_eq_add_of_le' (Nat.one_le_of_lt hlimit)
  have hresult := e.result_pages htakes hpages (Nat.le_of_lt_succ hlimit)
  have hrequests := e.requests_pages htakes hpages (Nat.le_of_lt_succ hlimit)
  -- The pages begin behind the invocation, with what it left of the deliveries.
  have hleft : (e.invoke contract method params).left n a = a.later := e.left_call htakes
  rw [traverse_eq, Calls.requests_bind, Calls.result_bind, e.result_invoke htakes hread, hleft]
  dsimp only
  rw [e.iterate_eq hstate htop hsession]
  constructor
  · rw [e.requests_invoke htakes, Calls.requests_attempt_bind, hrequests, hresult,
      e.requests_endSession htakes]
    rfl
  · rw [Calls.result_attempt_bind, hresult, result_endSession]

/-- A traversal of an iterator sends one request for each page with items, in their order and with
the same session, iterator and page size, one more for the end, and then ends the session. It comes to
all items in their order, or to the fault that came in place of a page, whatever comes of ending the
session. Any limit will do that is larger than the number of pages. -/
theorem items_of_pages (htakes : e.takesRequests)
    (hserves : e.Serves contract method params size n a session iterator pages stop)
    (hlimit : pages.length < limit) :
    let calls := e.traverse limit contract method params size
    calls.requests n a =
      .invoking n contract method params ::
        (List.range (pages.length + 1)).map (fun i => .paging (n + 1 + i) session iterator size) ++
          [.ending (n + pages.length + 2) session] ∧
    (calls.result n a).1 =
      (match stop with
      | .ok () => .ok pages.flatten
      | .error fault => .error (.call fault)) ∧
    ∀ d : Delivery,
      let b := Function.update a (pages.length + 2) fun _ => d
      calls.requests n b = calls.requests n a ∧ calls.result n b = calls.result n a := by
  intro calls
  obtain ⟨hrequests, hresult⟩ := e.traverse_of_serves htakes hserves hlimit
  have hlast : n + 1 + (pages.length + 1) = n + pages.length + 2 := by omega
  refine ⟨?_, ?_, fun d => ?_⟩
  · rw [hrequests, hlast]
  · rw [hresult]
    cases stop with
    | error fault => rfl
    | ok _ => rfl
  -- The last delivery lies behind the invocation and all pages, so the node serves the same.
  · intro b
    have hsame : ∀ i ≤ pages.length + 1, b i = a i := by
      intro i hi
      exact Function.update_of_ne (by omega) _ _
    have hother : e.Serves contract method params size n b session iterator pages stop := by
      refine ⟨?_, Hands.congr e hserves.pages fun i hi => hsame (i + 1) (by omega)⟩
      rw [hsame 0 (Nat.zero_le _)]
      exact hserves.invocation
    obtain ⟨hrequests', hresult'⟩ := e.traverse_of_serves htakes hother hlimit
    exact ⟨hrequests'.trans hrequests.symm, hresult'.trans hresult.symm⟩

end Traverse

/-! ## A node with two pages -/

/-- The answer of an invocation that opened an iterator. -/
def iterating : String :=
  "\x7b\x22result\x22:\x7b\x22state\x22:\x22HALT\x22,\x22session\x22:\x22s1\x22,\x22stack\x22:[\x7b\x22type\x22:\x22InteropInterface\x22,\x22id\x22:\x22it1\x22\x7d]\x7d\x7d"

/-- A page of two items. -/
def twoItems : String :=
  "\x7b\x22result\x22:[\x7b\x22type\x22:\x22Boolean\x22,\x22value\x22:true\x7d,\x7b\x22type\x22:\x22Boolean\x22,\x22value\x22:false\x7d]\x7d"

/-- A page of one item. -/
def oneItem : String :=
  "\x7b\x22result\x22:[\x7b\x22type\x22:\x22Boolean\x22,\x22value\x22:true\x7d]\x7d"

/-- A page without items. -/
def noItems : String :=
  "\x7b\x22result\x22:[]\x7d"

/-- What a node brings that hands out two pages and does not answer the end of the session. -/
def paged : Deliveries
  | 0, _ => .answered 200 iterating
  | 1, _ => .answered 200 twoItems
  | 2, _ => .answered 200 oneItem
  | 3, _ => .answered 200 noItems
  | _, _ => .failed

/-- The truth values of items that are nothing else. -/
def booleans? : List StackItem → Option (List Bool)
  | [] => some []
  | .boolean b :: items => (booleans? items).map (b :: ·)
  | _ :: _ => none

/-- Items that are all booleans are those booleans. -/
private theorem eq_of_booleans? {items : List StackItem} {bs : List Bool}
    (h : booleans? items = some bs) :
    items = bs.map .boolean := by
  fun_induction booleans? items generalizing bs with
  | case1 =>
    cases h
    rfl
  | case2 b items ih =>
    obtain ⟨bs, hbs, rfl⟩ := Option.map_eq_some_iff.mp h
    rw [ih hbs, List.map_cons]
  | case3 => cases h

/-- A page of booleans is read as it. -/
private theorem pageOf_booleans {body : String} {bs : List Bool}
    (h : (nearby.pageOf (.answered 200 body)).toOption.bind booleans? = some bs) :
    nearby.pageOf (.answered 200 body) = .ok (bs.map .boolean) := by
  obtain ⟨items, hread, hitems⟩ := Option.bind_eq_some_iff.mp h
  rw [Except.toOption_eq_some_iff.mp hread, eq_of_booleans? hitems]

/-- The node serves two pages of items and then ends. -/
private theorem serves_paged : nearby.Serves .gas "iterate" [] 10 1 paged "s1" "it1"
    [[.boolean true, .boolean false], [.boolean true]] (.ok ()) where
  invocation := by
    have hread : ((readDelivery nearby.url.text "invokefunction" Json.readInvocation
        (.answered 200 iterating)).toOption.map fun r =>
          (r.state, r.session, r.stack.getLast?.bind (·.iterator?.toOption))) =
        some ("HALT", some "s1", some "it1") := by
      decide +kernel
    obtain ⟨r, hr, hparts⟩ := Option.map_eq_some_iff.mp hread
    simp only [Prod.mk.injEq] at hparts
    obtain ⟨hstate, hsession, htop⟩ := hparts
    obtain ⟨item, hitem, hid⟩ := Option.bind_eq_some_iff.mp htop
    rw [Except.toOption_eq_some_iff, StackItem.iterator?_eq_ok_iff] at hid
    exact ⟨r, Except.toOption_eq_some_iff.mp hr, hstate, hsession, hid ▸ hitem⟩
  pages :=
    have hfirst : nearby.pageOf (.answered 200 twoItems) = .ok ([true, false].map .boolean) :=
      pageOf_booleans (by decide +kernel)
    have hsecond : nearby.pageOf (.answered 200 oneItem) = .ok ([true].map .boolean) :=
      pageOf_booleans (by decide +kernel)
    have hlast : nearby.pageOf (.answered 200 noItems) = .ok ([].map .boolean) :=
      pageOf_booleans (by decide +kernel)
    .page hfirst (List.cons_ne_nil _ _) (.page hsecond (List.cons_ne_nil _ _) (.done hlast))

/-- Two pages take three requests, and it does not matter that the session is not ended. -/
theorem items_of_pages_nearby :
    nearby.takesRequests ∧
    nearby.Serves .gas "iterate" [] 10 1 paged "s1" "it1"
      [[.boolean true, .boolean false], [.boolean true]] (.ok ()) ∧
    (nearby.traverse maxPages .gas "iterate" [] 10).requests 1 paged =
      [.invoking 1 .gas "iterate" [], .paging 2 "s1" "it1" 10, .paging 3 "s1" "it1" 10,
        .paging 4 "s1" "it1" 10, .ending 5 "s1"] ∧
    ((nearby.traverse maxPages .gas "iterate" [] 10).result 1 paged).1 =
      .ok [.boolean true, .boolean false, .boolean true] := by
  have htakes : nearby.takesRequests := by decide +kernel
  have hlimit : 2 < maxPages := by decide
  obtain ⟨hrequests, hresult, -⟩ := nearby.items_of_pages htakes serves_paged hlimit
  exact ⟨htakes, serves_paged, hrequests, hresult⟩

end Endpoint

end ChainGauge
