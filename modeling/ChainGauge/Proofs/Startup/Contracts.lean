import ChainGauge.Proofs.Config.Overrides
import ChainGauge.Proofs.ScriptHash.Forms
import ChainGauge.Proofs.Text.Trim
import ChainGauge.Startup.Plan

/-!
# How settings of contracts are read

The four contracts of the storage network's chain are read without the blanks around their settings,
and a blank setting counts as none (`Startup.build_given_of_fsChain`). A setting that is there is
parsed and asks nobody. The contract on the main chain is read as its setting stands: no text with a
blank in it is a script hash, so blanks around it end the program (`Startup.build_of_padded`), and it
is read like the others exactly where there are none (`Startup.mainContract_eq_iff`).

## Key results

- `ScriptHash.text?_of_parse`: a fault of parsing holds the text
- `Startup.build_given_of_fsChain`, `Startup.build_given_of_bare`, `Startup.build_of_padded`: starting
  up on the two chains
- `Startup.contract_settings`: all of this for every setting
-/

namespace ChainGauge

/-! ## Script hashes hold no blanks -/

/-- No digit is blank. -/
theorem Hex.Digit.not_blank {c : Char} {n : Nat} (h : Digit c n) : Text.isBlank c = false := by
  have hall : (lowerDigits ++ upperDigits).all (!Text.isBlank ·) = true := by decide
  have hmem : c ∈ lowerDigits ++ upperDigits :=
    List.mem_append.mpr (h.imp List.mem_of_getElem? List.mem_of_getElem?)
  simpa using List.all_eq_true.mp hall c hmem

/-- There are no blanks among digits. -/
theorem Hex.Spells.not_blank {cs : List Char} {bs : Bytes} (h : Spells cs bs) :
    ∀ c ∈ cs, Text.isBlank c = false := by
  induction h with
  | nil => exact fun c hc => nomatch hc
  | cons hc hd _ ih => exact List.forall_mem_cons.mpr ⟨hc.not_blank,
      List.forall_mem_cons.mpr ⟨hd.not_blank, ih⟩⟩

namespace ScriptHash

variable {s : String} {h : ScriptHash} {e : Fault}

/-- Nor in any form of a script hash. -/
theorem Form.Writes.not_blank {f : Form} (hs : f.Writes h s) :
    ∀ c ∈ s.toList, Text.isBlank c = false := by
  -- No form has a blank: hexadecimal digits, the mark, and the alphabet of Base58.
  cases f with
  | display =>
    obtain ⟨digits, hmarked, hdigits⟩ := hs
    rw [hmarked]
    exact List.forall_mem_cons.mpr ⟨by decide,
      List.forall_mem_cons.mpr ⟨by decide, hdigits.not_blank⟩⟩
  | bare => exact Hex.Spells.not_blank hs
  | address =>
    have hall : Base58.alphabet.all (!Text.isBlank ·) = true := by decide +kernel
    intro c hc
    rw [show s = h.toAddress from hs, toAddress_eq] at hc
    simpa using List.all_eq_true.mp hall c (Base58.mem_alphabet_of_mem_encode hc)

/-- What is parsed has no blanks around it. -/
private theorem trim_of_parse (hs : parse s = .ok h) : Text.trim s = s := by
  obtain ⟨f, hf⟩ := exists_writes_of_parse hs
  exact Text.trim_eq_self hf.not_blank

/-- The text that a fault speaks of. -/
def Fault.text? : Fault → Option String
  | .hex s _ | .hexWidth s _ | .base58 s _ | .addressLength s | .checksum s | .version s _ => some s
  | .width _ => none

/-- What is wrong with digits is told with the text. -/
private theorem text?_of_ofHex (hs : ofHex s = .error e) : e.text? = some s := by
  unfold ofHex at hs
  split at hs
  · cases hs
    rfl
  · split at hs
    · exact nomatch hs
    · cases hs
      rfl

/-- So is what is wrong with an address. -/
private theorem text?_of_ofAddress (hs : ofAddress s = .error e) : e.text? = some s := by
  unfold ofAddress at hs
  split at hs
  · cases hs
    rfl
  · rename_i raw _
    dsimp only at hs
    split at hs
    · cases hs
      rfl
    · rename_i hlength
      split at hs
      · cases hs
        rfl
      · split at hs
        · cases hs
          rfl
        · -- Twenty bytes are left for the hash.
          have hrest : ((raw.take 21).drop 1).length = 20 := by
            rw [List.length_drop, List.length_take]
            omega
          have hread : ofLe ((raw.take 21).drop 1) = .ok ⟨_, hrest⟩ := ofLe_eq_ok_iff.mpr rfl
          exact nomatch hread.symm.trans hs

/-- A fault of parsing holds the text. -/
theorem text?_of_parse (hs : parse s = .error e) : e.text? = some s := by
  unfold parse at hs
  split at hs
  · exact text?_of_ofHex hs
  · split at hs
    · exact nomatch hs
    · exact text?_of_ofAddress hs

end ScriptHash

open Startup (given?) in
/-- The contracts with their settings as they are read: without blanks around them, and none that
is blank. -/
def ContractSettings.given (c : ContractSettings) : ContractSettings where
  neofs := given? c.neofs
  netmap := given? c.netmap
  container := given? c.container
  balance := given? c.balance
  proxy := given? c.proxy

/-- Settings with their contracts as they are read. -/
def Settings.given (s : Settings) : Settings :=
  { s with contracts := s.contracts.given }

namespace Startup

variable {s : Settings} {service : Names.Service} {name text : String} {setting : Option String}

/-! ## Settings without blanks around them -/

/-- A blank setting counts as none. -/
private theorem given?_of_blank (h : Text.trim text = "") : given? (some text) = none := by
  simp [given?, h]

private theorem given?_of_text (h : Text.trim text ≠ "") :
    given? (some text) = some (Text.trim text) := by
  simp [given?, h]

/-- Nothing is left to trim behind that. -/
@[simp] theorem given?_given? (setting : Option String) : given? (given? setting) = given? setting := by
  cases setting with
  | none => rfl
  | some text =>
    by_cases h : Text.trim text = ""
    · rw [given?_of_blank h]
      rfl
    · have htrim : Text.trim (Text.trim text) ≠ "" := by rwa [Text.trim_trim]
      rw [given?_of_text h, given?_of_text htrim, Text.trim_trim]

/-- What the text of a contract's setting is read as. -/
def readHash (name text : String) : Except StartupFault ScriptHash :=
  ((ScriptHash.parse text).mapError ChainError.hash).mapError (StartupFault.contract name)

/-! ## The storage network's chain -/

/-- A contract is looked for by what counts of its setting. -/
private theorem contract_given (service : Names.Service) (name : String) (setting : Option String) :
    contract service name (given? setting) = contract service name setting := by
  unfold contract
  rw [given?_given?]

/-- So is the proxy contract. -/
private theorem proxy_given (service : Names.Service) (setting : Option String) :
    proxy service (given? setting) = proxy service setting := by
  unfold proxy
  rw [given?_given?, contract_given]

/-- Whoever has a setting is not looked up. -/
private theorem contract_of_given (h : given? setting = some text) :
    contract service name setting = ExceptT.mk (.done (readHash name text)) := by
  unfold contract
  rw [h]
  rfl

/-- A setting that counts is read as a script hash. -/
private theorem proxy_of_given (h : given? setting = some text) :
    proxy service setting = ExceptT.mk (.done ((readHash "proxy" text).map some)) := by
  unfold proxy
  rw [h, contract_of_given h]
  simp only
  cases readHash "proxy" text <;> rfl

/-- On the storage network's chain, only what is left without blanks counts. -/
private theorem prepareFsChain_given (s : Settings) :
    prepareFsChain s.given = prepareFsChain s := by
  simp only [prepareFsChain, Settings.given, ContractSettings.given, contract_given, proxy_given]
  rfl

/-! ## The main chain -/

/-- The contract of the main chain is read from its setting as it stands. -/
private theorem mainContract_of_text (h : text ≠ "") :
    mainContract (some text) = ExceptT.mk (.done ((readHash "neofs" text).map some)) := by
  have hgiven : (some text).filter (fun s => !s.isEmpty) = some text := by simp [h]
  unfold mainContract
  rw [hgiven]
  simp only [settle, readHash]
  cases ScriptHash.parse text <;> rfl

/-- An empty setting counts as none. -/
private theorem mainContract_of_empty (h : ∀ text, setting = some text → text = "") :
    mainContract setting = ExceptT.mk (.done (.ok none)) := by
  have hgiven : setting.filter (fun s => !s.isEmpty) = none := by
    cases setting with
    | none => rfl
    | some text => simp [h text rfl]
  unfold mainContract
  rw [hgiven]
  rfl

/-- Nobody is asked for the contract on the main chain. -/
private theorem exists_mainContract_eq (setting : Option String) :
    ∃ r, mainContract setting = ExceptT.mk (.done r) := by
  by_cases hempty : ∀ text, setting = some text → text = ""
  · exact ⟨_, mainContract_of_empty hempty⟩
  · obtain ⟨text, hsome⟩ := Classical.not_forall.mp hempty
    obtain ⟨rfl, hne⟩ := Classical.not_imp.mp hsome
    exact ⟨_, mainContract_of_text hne⟩

/-- Blanks around the setting are read with it, and no script hash has any. -/
private theorem readHash_of_padded (name : String) (h : Text.trim text ≠ text) :
    ∃ e : ScriptHash.Fault, e.text? = some text ∧
      readHash name text = .error (.contract name (.hash e)) := by
  cases hparse : ScriptHash.parse text with
  | ok hash => exact absurd (ScriptHash.trim_of_parse hparse) h
  | error e => exact ⟨e, ScriptHash.text?_of_parse hparse, by simp [readHash, hparse]; rfl⟩

/-- The contract on the main chain is read like the others where its setting has no blanks around
it, and not otherwise. -/
theorem mainContract_eq_iff (setting : Option String) :
    mainContract (given? setting) = mainContract setting ↔
      ∀ text, setting = some text → Text.trim text = text := by
  constructor
  · intro heq text hsetting
    subst hsetting
    by_contra hpadded
    have hne : text ≠ "" := by
      rintro rfl
      exact hpadded rfl
    obtain ⟨e, htext, hread⟩ := readHash_of_padded "neofs" hpadded
    rw [mainContract_of_text hne, hread] at heq
    by_cases hblank : Text.trim text = ""
    · have hnone : mainContract none = ExceptT.mk (.done (.ok none)) :=
        mainContract_of_empty fun _ h => nomatch h
      rw [given?_of_blank hblank, hnone] at heq
      exact nomatch heq
    · rw [given?_of_text hblank, mainContract_of_text hblank] at heq
      -- A fault on the trimmed text holds that text.
      cases hparse : ScriptHash.parse (Text.trim text) with
      | ok hash =>
        rw [readHash, hparse] at heq
        exact nomatch heq
      | error e' =>
        rw [readHash, hparse] at heq
        cases heq
        exact hpadded (Option.some.inj ((ScriptHash.text?_of_parse hparse).symm.trans htext))
  · intro hbare
    cases setting with
    | none => rfl
    | some text =>
      have htrim : Text.trim text = text := hbare text rfl
      by_cases hempty : text = ""
      · subst hempty
        rfl
      · rw [given?_of_text (by rwa [htrim]), htrim]

/-! ## Starting up -/

/-- The part of starting up that is different on the two chains. -/
def prepare (s : Settings) : Building Prepared :=
  if s.fsChain then prepareFsChain s else prepareMainChain s

/-- The job of the storage network's chain. -/
theorem prepare_fsChain (h : s.fsChain = true) : prepare s = prepareFsChain s :=
  if_pos h

/-- The job of the main chain. -/
theorem prepare_mainChain (h : s.fsChain = false) : prepare s = prepareMainChain s :=
  if_neg (by rw [h]; exact Bool.false_ne_true)

/-- Starting up connects a pool, prepares the job and reads the address of the metrics. -/
theorem build_eq (s : Settings) :
    build s = connectPool s.rpc >>= fun period => prepare s >>= fun (job, sources, periods) =>
      ExceptT.mk (pure (s.listenAddress.mapError StartupFault.settings)) >>= fun listen =>
        pure
          { job, sources, metrics := (Metrics.empty s.mode).setVersion Routes.version,
            interval := s.metricsInterval, listen, recheckPeriods := period :: periods } := by
  unfold build prepare
  split <;> rfl

/-- Settings that prepare alike build alike. -/
private theorem build_given_of (h : prepare s.given = prepare s) : build s.given = build s := by
  have hlisten : s.given.listenAddress = s.listenAddress := by
    have hendpoint : s.given.metricsEndpoint = s.metricsEndpoint := rfl
    unfold Settings.listenAddress
    rw [hendpoint]
  have hmode : s.given.mode = s.mode := rfl
  have hrpc : s.given.rpc = s.rpc := rfl
  have hinterval : s.given.metricsInterval = s.metricsInterval := rfl
  rw [build_eq, build_eq, h, hlisten, hmode, hrpc, hinterval]

/-- On the storage network's chain blanks around settings do not matter. -/
theorem build_given_of_fsChain (h : s.fsChain = true) : build s.given = build s := by
  refine build_given_of ?_
  have hgiven : s.given.fsChain = true := h
  rw [prepare_fsChain h, prepare_fsChain hgiven, prepareFsChain_given]

/-- On the main chain, a setting without blanks around it is read as on the other chain. -/
theorem build_given_of_bare (h : s.fsChain = false)
    (hbare : ∀ text, s.contracts.neofs = some text → Text.trim text = text) :
    build s.given = build s := by
  refine build_given_of ?_
  have hgiven : s.given.fsChain = false := h
  have hsame : mainContract s.given.contracts.neofs = mainContract s.contracts.neofs :=
    (mainContract_eq_iff s.contracts.neofs).mpr hbare
  rw [prepare_mainChain h, prepare_mainChain hgiven, prepareMainChain, prepareMainChain, hsame]
  rfl

/-- On the main chain, blanks around the setting end the program. -/
theorem build_of_padded (h : s.fsChain = false) (hsetting : s.contracts.neofs = some text)
    (hpadded : Text.trim text ≠ text) :
    ∃ e : ScriptHash.Fault, e.text? = some text ∧ build s = connectPool s.rpc >>= fun _ =>
      ExceptT.mk (.done (.error (.contract "neofs" (.hash e)))) := by
  have hne : text ≠ "" := by
    rintro rfl
    exact hpadded rfl
  obtain ⟨e, htext, hread⟩ := readHash_of_padded "neofs" hpadded
  refine ⟨e, htext, ?_⟩
  -- The text is taken with its blanks, and no form of a hash has any.
  have hprepare : prepare s = ExceptT.mk (.done (.error (.contract "neofs" (.hash e)))) := by
    rw [prepare_mainChain h, prepareMainChain, hsetting, mainContract_of_text hne, hread]
    rfl
  rw [build_eq, hprepare]
  rfl

/-- For every setting of a contract, whether it stands in the file or in the environment. On the
storage network's chain, starting up goes on as if the settings were given without the blanks around
them, or not at all where they are blank: each of the four contracts is looked up where its setting is
blank, and else parsed, with its own fault, and nobody is asked. On the main chain nobody is asked
either, but the text is parsed as it stands. Where it has blanks around it, starting up ends with the
fault of its contract once the pool is connected; where it has none, starting up goes on as on the other
chain. The environment gives nothing but this last text, as it stands, unless that is blank. -/
theorem contract_settings (s : Settings) :
    (s.fsChain = true → build s.given = build s) ∧
    (∀ service name text, Text.trim text = "" →
      contract service name (some text) = contract service name none ∧
      proxy service (some text) = proxy service none) ∧
    (∀ service name text, Text.trim text ≠ "" →
      contract service name (some text) = ExceptT.mk (.done (readHash name (Text.trim text))) ∧
      proxy service (some text) =
        ExceptT.mk (.done ((readHash "proxy" (Text.trim text)).map some))) ∧
    (∀ setting, (∃ r, mainContract setting = ExceptT.mk (.done r)) ∧
      (mainContract (given? setting) = mainContract setting ↔
        ∀ text, setting = some text → Text.trim text = text)) ∧
    (s.fsChain = false →
      ((∀ text, s.contracts.neofs = some text → Text.trim text = text) → build s.given = build s) ∧
      ∀ text, s.contracts.neofs = some text → Text.trim text ≠ text →
        ∃ e : ScriptHash.Fault, e.text? = some text ∧ build s = connectPool s.rpc >>= fun _ =>
          ExceptT.mk (.done (.error (.contract "neofs" (.hash e))))) ∧
    ∀ lookup, (s.applyOverrides lookup).2 = none →
      (s.applyOverrides lookup).1.contracts = { s.contracts with
        neofs := (Settings.present? lookup Settings.contractVariable).or s.contracts.neofs } := by
  refine ⟨build_given_of_fsChain, fun service name text hblank => ?_, fun service name text htext => ?_,
    fun setting => ⟨exists_mainContract_eq setting, mainContract_eq_iff setting⟩,
    fun h => ⟨build_given_of_bare h, fun text => build_of_padded h⟩,
    fun lookup => Settings.contracts_applyOverrides⟩
  · rw [← contract_given, ← proxy_given, given?_of_blank hblank]
    exact ⟨rfl, rfl⟩
  · exact ⟨contract_of_given (given?_of_text htext), proxy_of_given (given?_of_text htext)⟩

/-! ## A padded setting -/

/-- Settings of the main chain with a contract. -/
def settingsOf (text : String) : Settings :=
  { Settings.usual with
    rpc := { RpcSettings.usual with endpoints := ["http://main:1"] }
    contracts := { ContractSettings.usual with neofs := some text } }

/-- Whether starting up comes to a plan, with nodes that answer when they are dialed. -/
def starts (s : Settings) : Bool :=
  let answer : (a : Ask) → a.Answer
    | .version _ _ => .ok ⟨"", 0⟩
    | .query _ => .error .noHealthyClient
    | .file _ => none
  (Id.run ((build s).run.hold fun a => pure (answer a))).isOk

/-- The same text with blanks around it names any contract of the storage network's chain, and ends
the program on the main chain. -/
theorem padded_setting :
    let text := " 0x0707070707070707070707070707070707070707 "
    (readHash "netmap" (Text.trim text)).isOk = true ∧
    starts (settingsOf (Text.trim text)) = true ∧ starts (settingsOf text) = false := by
  decide +kernel

end Startup

end ChainGauge
