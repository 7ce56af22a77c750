import StytchBrowser.JsUtils.PlainObject
import StytchBrowser.Lib.Dialog

/-!
# Crypto wallets

Which wallets are offered is told from what the extensions have injected into the page
(`isWalletVisible`); `connectWithWallet` and `signMessageWithWallet` look for the provider once more.
The calls of a provider are questions of a `Dialog`; it answers or rejects with `ε`.

* `wallets_usable_iff`: which offered wallets can be used, and when a call goes to a provider with the
  flag of the wallet.
-/

universe u

namespace StytchBrowser.Web

/-! ## The page -/

inductive Wallets where
  | Phantom
  | Metamask
  | Coinbase
  | Binance
  | GenericEthereumWallet
  | GenericSolanaWallet
  deriving DecidableEq

/-- An injected provider. -/
structure ETHProvider where
  /-- Which object it is. -/
  ref : ℕ
  isMetaMask : Option Bool
  isCoinbaseWallet : Option Bool
  /-- It has a function `request`. -/
  request : Bool
  deriving DecidableEq

/-- `window.ethereum`. -/
structure Ethereum extends ETHProvider where
  providers : Option (List ETHProvider)

/-- `window.solana`. -/
structure Solana where
  isPhantom : Option Bool

/-- `window.BinanceChain`. -/
structure BinanceChain where
  /-- It has a function `request`. -/
  request : Bool

structure Window where
  ethereum : Option Ethereum
  solana : Option Solana
  binanceChain : Option BinanceChain

/-- An optional flag that is read as a condition. -/
def truthy (flag : Option Bool) : Bool := flag.getD false

/-! ## The calls of the providers -/

/-- What can be called. -/
inductive Provider where
  | ethereum (provider : ETHProvider)
  | binanceChain
  | solana

inductive ProviderRequest where
  | eth_requestAccounts
  | personal_sign (message address : String)
  | connect
  | signMessage (message : ByteArray) (display : String)

structure ProviderCall where
  provider : Provider
  request : ProviderRequest

/-- Accounts, a signature, the public key as a string, or a signature in bytes. -/
def ProviderCall.Answer (ε : Type u) : ProviderCall → Type u
  | ⟨_, .eth_requestAccounts⟩ => Except ε (List String)
  | ⟨_, .personal_sign _ _⟩ => Except ε String
  | ⟨_, .connect⟩ => Except ε String
  | ⟨_, .signMessage _ _⟩ => Except ε ByteArray

/-- What an asynchronous function does: the calls it makes, and what its promise settles to. -/
abbrev Async (ε : Type u) (α : Type) :=
  Dialog ProviderCall (ProviderCall.Answer ε) (Except (TypeError ⊕ ε) α)

/-- What the promise settles to when it is settled with an answer. -/
def settleWith {ε : Type u} {α β : Type} (f : α → β) : Except ε α → Except (TypeError ⊕ ε) β
  | .ok a => .ok (f a)
  | .error e => .error (.inr e)

variable {ε : Type u}

/-- `request({ method: 'eth_requestAccounts' })`, and the first of the accounts. -/
def connectWithEthereumProvider (provider : Provider) : Async ε (Option String) :=
  .ask ⟨provider, .eth_requestAccounts⟩ fun answer : Except ε (List String) =>
    .done (settleWith List.head? answer)

def signMessageWithEthereumProvider (provider : Provider) (message address : String) :
    Async ε String :=
  .ask ⟨provider, .personal_sign message address⟩ fun answer : Except ε String =>
    .done (settleWith id answer)

section
variable (encode : ByteArray → String)

/-- `window.solana.connect()`, and the public key of the answer as a string. -/
def connectWithSolanaProvider (solana : Option Solana) : Async ε (Option String) :=
  match solana with
  | none => .done (.error (.inl .typeError))
  | some _ => .ask ⟨.solana, .connect⟩ fun answer : Except ε String => .done (settleWith some answer)

def signMessageWithSolanaProvider (solana : Option Solana) (message : String) : Async ε String :=
  match solana with
  | none => .done (.error (.inl .typeError))
  | some _ => .ask ⟨.solana, .signMessage message.toUTF8 "utf8"⟩ fun answer : Except ε ByteArray =>
      .done (settleWith encode answer)

end

/-! ## Detection and selection -/

section
variable (window : Window)

def hasMultipleEthereumWallets : Bool := (window.ethereum.bind (·.providers)).isSome

/-- `window.ethereum.providers?.find`, where there is a list. -/
def findProvider (p : ETHProvider → Bool) : Option ETHProvider :=
  (window.ethereum.bind (·.providers)).bind (List.find? p)

/-- A provider with the flag, of the list if there is one. -/
def hasFlag (flag : ETHProvider → Bool) : Bool :=
  if hasMultipleEthereumWallets window then (findProvider window flag).isSome
  else (window.ethereum.map fun ethereum => flag ethereum.toETHProvider).getD false

/-- It reads the flag of `window.ethereum` without a test that there is one. -/
def hasMetaMask : Except TypeError Bool :=
  if hasMultipleEthereumWallets window then
    .ok (findProvider window fun wallet => truthy wallet.isMetaMask).isSome
  else match window.ethereum with
    | none => .error .typeError
    | some ethereum => .ok (truthy ethereum.isMetaMask)

def hasCoinbaseWallet : Bool := hasFlag window fun wallet => truthy wallet.isCoinbaseWallet

def hasOtherEthereumWallet : Except TypeError Bool :=
  (hasMetaMask window).map fun metaMask =>
    !metaMask && !hasCoinbaseWallet window && window.ethereum.isSome

/-- The first provider of the list with the flag, or the provider that is injected alone. -/
def getFlagged (flag : ETHProvider → Bool) : Option ETHProvider :=
  if hasMultipleEthereumWallets window then findProvider window flag
  else window.ethereum.map (·.toETHProvider)

def getMetaMaskProvider : Option ETHProvider :=
  getFlagged window fun wallet => truthy wallet.isMetaMask

def getCoinbaseProvider : Option ETHProvider :=
  getFlagged window fun wallet => truthy wallet.isCoinbaseWallet

def getOtherInjectedProvider : Except TypeError (Option ETHProvider) :=
  if window.ethereum.isSome then
    .ok (findProvider window fun wallet => !truthy wallet.isCoinbaseWallet && !truthy wallet.isMetaMask)
  else .error .typeError

def isWalletVisible : Wallets → Except TypeError Bool
  | .Metamask => if window.ethereum.isSome then hasMetaMask window else .ok false
  | .Phantom => .ok (truthy (window.solana.bind (·.isPhantom)))
  | .Binance => .ok window.binanceChain.isSome
  | .Coinbase => .ok (window.ethereum.isSome && hasCoinbaseWallet window)
  | .GenericEthereumWallet =>
      if window.ethereum.isSome then hasOtherEthereumWallet window else .ok false
  | .GenericSolanaWallet =>
      .ok (window.solana.isSome && !truthy (window.solana.bind (·.isPhantom)))

/-- `provider?.request ? f(provider?.request) : ''`. -/
def withRequest {α : Type} (provider : Option ETHProvider) (empty : α)
    (f : Provider → Async ε α) : Async ε α :=
  match provider with
  | some provider => if provider.request then f (.ethereum provider) else .done (.ok empty)
  | none => .done (.ok empty)

/-- The same for `window.BinanceChain`. -/
def withBinanceChain {α : Type} (empty : α) (f : Provider → Async ε α) : Async ε α :=
  match window.binanceChain with
  | some chain => if chain.request then f .binanceChain else .done (.ok empty)
  | none => .done (.ok empty)

/-- The same for the provider that `getOtherInjectedProvider` returns, if it does not throw. -/
def withOther {α : Type} (empty : α) (f : Provider → Async ε α) : Async ε α :=
  match getOtherInjectedProvider window with
  | .ok provider => withRequest provider empty f
  | .error e => .done (.error (.inl e))

def connectWithWallet : Wallets → Async ε (Option String)
  | .Metamask => withRequest (getMetaMaskProvider window) (some "") connectWithEthereumProvider
  | .Phantom => connectWithSolanaProvider window.solana
  | .Binance => withBinanceChain window (some "") connectWithEthereumProvider
  | .Coinbase => withRequest (getCoinbaseProvider window) (some "") connectWithEthereumProvider
  | .GenericEthereumWallet => withOther window (some "") connectWithEthereumProvider
  | .GenericSolanaWallet => connectWithSolanaProvider window.solana

def signMessageWithWallet (encode : ByteArray → String) (message address : String) :
    Wallets → Async ε String
  | .Phantom => signMessageWithSolanaProvider encode window.solana message
  | .GenericSolanaWallet => signMessageWithSolanaProvider encode window.solana message
  | .Metamask =>
      withRequest (getMetaMaskProvider window) "" (signMessageWithEthereumProvider · message address)
  | .Binance => withBinanceChain window "" (signMessageWithEthereumProvider · message address)
  | .Coinbase =>
      withRequest (getCoinbaseProvider window) "" (signMessageWithEthereumProvider · message address)
  | .GenericEthereumWallet => withOther window "" (signMessageWithEthereumProvider · message address)

end

/-! ## What an offered wallet is for -/

/-- The provider that is injected alone, or one of the list. -/
def Injected (window : Window) (provider : ETHProvider) : Prop :=
  ∃ ethereum, window.ethereum = some ethereum ∧
    match ethereum.providers with
    | none => provider = ethereum.toETHProvider
    | some providers => provider ∈ providers

/-- A provider of the kind. -/
def IsOfKind (window : Window) : Wallets → Provider → Prop
  | .Metamask, .ethereum provider => Injected window provider ∧ truthy provider.isMetaMask
  | .Coinbase, .ethereum provider => Injected window provider ∧ truthy provider.isCoinbaseWallet
  | .GenericEthereumWallet, .ethereum provider =>
      Injected window provider ∧ ¬ truthy provider.isMetaMask ∧ ¬ truthy provider.isCoinbaseWallet
  | .Binance, .binanceChain => window.binanceChain.isSome
  | .Phantom, .solana => ∃ solana, window.solana = some solana ∧ truthy solana.isPhantom
  | .GenericSolanaWallet, .solana => ∃ solana, window.solana = some solana ∧ ¬ truthy solana.isPhantom
  | _, _ => False

/-- How a provider is connected to, and the address that it answers. -/
def Connects (provider : Provider) (d : Async ε (Option String)) : Prop :=
  match provider with
  | .solana => ∀ asked result, d.Runs asked result ↔ ∃ answer : Except ε String,
      asked = [⟨⟨.solana, .connect⟩, answer⟩] ∧ result = settleWith some answer
  | provider => ∀ asked result, d.Runs asked result ↔ ∃ answer : Except ε (List String),
      asked = [⟨⟨provider, .eth_requestAccounts⟩, answer⟩] ∧ result = settleWith List.head? answer

/-- How a provider signs, and the signature that it answers. -/
def Signs (encode : ByteArray → String) (provider : Provider) (message address : String)
    (d : Async ε String) : Prop :=
  match provider with
  | .solana => ∀ asked result, d.Runs asked result ↔ ∃ answer : Except ε ByteArray,
      asked = [⟨⟨.solana, .signMessage message.toUTF8 "utf8"⟩, answer⟩] ∧
        result = settleWith encode answer
  | provider => ∀ asked result, d.Runs asked result ↔ ∃ answer : Except ε String,
      asked = [⟨⟨provider, .personal_sign message address⟩, answer⟩] ∧ result = settleWith id answer

/-- The wallet connects with a provider of its kind, and signs with the same. -/
def Usable (ε : Type u) (encode : ByteArray → String) (window : Window) (wallet : Wallets) : Prop :=
  ∃ provider, IsOfKind window wallet provider ∧
    Connects provider (connectWithWallet window wallet : Async ε (Option String)) ∧
    ∀ message address, Signs encode provider message address
      (signMessageWithWallet window encode message address wallet : Async ε String)

/-- The flag of the wallet, for the two wallets that have one. -/
def hasFlagOf : Wallets → ETHProvider → Bool
  | .Metamask, provider => truthy provider.isMetaMask
  | .Coinbase, provider => truthy provider.isCoinbaseWallet
  | _, _ => true

/-- The injected providers that are called have the property. -/
def CallsOnly {α : Type} (p : ETHProvider → Prop) (d : Async ε α) : Prop :=
  ∀ asked result, d.Runs asked result → ∀ call ∈ asked, ∀ provider,
    call.1.provider = .ethereum provider → p provider

/-- The calls for the wallet, whether or not it is offered, go to providers with its flag. -/
def RoutedByFlag (ε : Type u) (encode : ByteArray → String) (window : Window) (wallet : Wallets) :
    Prop :=
  CallsOnly (hasFlagOf wallet ·) (connectWithWallet window wallet : Async ε (Option String)) ∧
    ∀ message address, CallsOnly (hasFlagOf wallet ·)
      (signMessageWithWallet window encode message address wallet : Async ε String)

/-- Every provider has a function `request`. -/
structure HasRequests (window : Window) : Prop where
  ethereum : ∀ provider, Injected window provider → provider.request
  binanceChain : ∀ chain, window.binanceChain = some chain → chain.request

/-- What the generic Ethereum wallet needs: a list of providers, or a flag of the provider that is
injected alone, by which it is not offered. -/
def OtherIsListed (window : Window) : Prop :=
  ∀ ethereum, window.ethereum = some ethereum →
    match ethereum.providers with
    | none => truthy ethereum.isMetaMask ∨ truthy ethereum.isCoinbaseWallet
    | some providers => providers ≠ []

/-! ## Selection agrees with detection -/

variable {window : Window} {encode : ByteArray → String} {flag : ETHProvider → Bool}
  {provider : ETHProvider}

theorem findProvider_eq_some (h : findProvider window flag = some provider) :
    Injected window provider ∧ flag provider := by
  obtain ⟨providers, hproviders, hfind⟩ := Option.bind_eq_some_iff.1 h
  obtain ⟨ethereum, hethereum, hlist⟩ := Option.bind_eq_some_iff.1 hproviders
  refine ⟨⟨ethereum, hethereum, ?_⟩, List.find?_some hfind⟩
  rw [hlist]
  exact List.mem_of_find?_eq_some hfind

/-- A provider that is detected is selected. -/
theorem getFlagged_of_hasFlag (h : hasFlag window flag = true) :
    ∃ provider, getFlagged window flag = some provider ∧ Injected window provider ∧ flag provider := by
  unfold hasFlag at h
  unfold getFlagged
  split_ifs at h ⊢ with hmultiple
  · obtain ⟨provider, hfind⟩ := Option.isSome_iff_exists.1 h
    exact ⟨provider, hfind, findProvider_eq_some hfind⟩
  · cases hethereum : window.ethereum with
    | none =>
      rw [hethereum] at h
      cases h
    | some ethereum =>
      rw [hethereum] at h
      refine ⟨ethereum.toETHProvider, rfl, ⟨ethereum, hethereum, ?_⟩, h⟩
      cases hlist : ethereum.providers with
      | none => rfl
      | some providers =>
        rw [hasMultipleEthereumWallets, hethereum] at hmultiple
        exact absurd (by rw [Option.bind_some, hlist]; rfl) hmultiple

/-- Where `window.ethereum` is tested first, `hasMetaMask` does not throw. -/
theorem hasMetaMask_eq (h : window.ethereum.isSome) :
    hasMetaMask window = .ok (hasFlag window fun wallet => truthy wallet.isMetaMask) := by
  obtain ⟨ethereum, hethereum⟩ := Option.isSome_iff_exists.1 h
  unfold hasMetaMask hasFlag
  split_ifs with hmultiple
  · rfl
  · rw [hethereum]
    rfl

theorem isWalletVisible_other (window : Window) :
    isWalletVisible window .GenericEthereumWallet = .ok (window.ethereum.isSome &&
      !hasFlag window (fun wallet => truthy wallet.isMetaMask) && !hasCoinbaseWallet window) := by
  rw [isWalletVisible]
  split_ifs with hethereum
  · rw [hasOtherEthereumWallet, hasMetaMask_eq hethereum, hethereum, Bool.true_and]
    exact congrArg Except.ok (Bool.and_true _)
  · rw [Bool.not_eq_true] at hethereum
    rw [hethereum, Bool.false_and, Bool.false_and]

/-- The test whether a wallet is offered does not throw. -/
theorem isWalletVisible_ok (window : Window) (wallet : Wallets) :
    ∃ visible, isWalletVisible window wallet = .ok visible := by
  cases wallet with
  | Metamask =>
    rw [isWalletVisible]
    split_ifs with hethereum
    · exact ⟨_, hasMetaMask_eq hethereum⟩
    · exact ⟨_, rfl⟩
  | GenericEthereumWallet => exact ⟨_, isWalletVisible_other window⟩
  | Phantom => exact ⟨_, rfl⟩
  | Coinbase => exact ⟨_, rfl⟩
  | Binance => exact ⟨_, rfl⟩
  | GenericSolanaWallet => exact ⟨_, rfl⟩

/-- When no provider of a list has a flag, the first of the list is another one. -/
theorem findProvider_other {ethereum : Ethereum} {providers : List ETHProvider}
    (hethereum : window.ethereum = some ethereum) (hlist : ethereum.providers = some providers)
    (hne : providers ≠ [])
    (hmetaMask : ¬ hasFlag window (fun wallet => truthy wallet.isMetaMask) = true)
    (hcoinbase : ¬ hasCoinbaseWallet window = true) :
    ∃ provider, findProvider window
      (fun wallet => !truthy wallet.isCoinbaseWallet && !truthy wallet.isMetaMask) = some provider := by
  have hproviders : window.ethereum.bind (·.providers) = some providers := by
    rw [hethereum]
    exact hlist
  have hnone : ∀ flag, ¬ hasFlag window flag = true → ∀ provider ∈ providers, ¬ flag provider = true := by
    intro flag hflag provider hmem hprovider
    refine hflag ?_
    rw [hasFlag, if_pos (by rw [hasMultipleEthereumWallets, hproviders]; rfl), findProvider, hproviders]
    exact List.find?_isSome.2 ⟨provider, hmem, hprovider⟩
  obtain ⟨provider, rest, rfl⟩ := List.exists_cons_of_ne_nil hne
  have hfirst := hnone _ hmetaMask provider List.mem_cons_self
  have hsecond := hnone _ hcoinbase provider List.mem_cons_self
  rw [Bool.not_eq_true] at hfirst hsecond
  refine ⟨provider, ?_⟩
  rw [findProvider, hproviders, Option.bind_some, List.find?_cons_of_pos]
  rw [hfirst, hsecond]
  rfl

/-- Without a list, or with an empty one, there is no other provider. -/
theorem findProvider_eq_none {ethereum : Ethereum} (hethereum : window.ethereum = some ethereum)
    (hlist : ethereum.providers = none ∨ ethereum.providers = some []) :
    findProvider window flag = none := by
  rw [findProvider, hethereum, Option.bind_some]
  rcases hlist with hlist | hlist <;> rw [hlist] <;> rfl

theorem hasFlag_single {ethereum : Ethereum} (hethereum : window.ethereum = some ethereum)
    (hlist : ethereum.providers = none) : hasFlag window flag = flag ethereum.toETHProvider := by
  rw [hasFlag, hasMultipleEthereumWallets, hethereum, Option.bind_some, hlist]
  rfl

theorem hasFlag_empty {ethereum : Ethereum} (hethereum : window.ethereum = some ethereum)
    (hlist : ethereum.providers = some []) : hasFlag window flag = false := by
  rw [hasFlag, hasMultipleEthereumWallets, findProvider_eq_none hethereum (.inr hlist), hethereum,
    Option.bind_some, hlist]
  rfl

/-! ## The calls -/

theorem connects_withRequest (h : provider.request) :
    Connects (.ethereum provider)
      (withRequest (some provider) (some "") connectWithEthereumProvider :
        Async ε (Option String)) := by
  rw [withRequest, if_pos h]
  exact fun asked result => Dialog.runs_once

theorem signs_withRequest (h : provider.request) (message address : String) :
    Signs encode (.ethereum provider) message address
      (withRequest (some provider) "" (signMessageWithEthereumProvider · message address) :
        Async ε String) := by
  rw [withRequest, if_pos h]
  exact fun asked result => Dialog.runs_once

/-- No provider is connected to where nothing is asked. -/
theorem not_connects_done (provider : Provider) (result : Except (TypeError ⊕ ε) (Option String)) :
    ¬ Connects provider (.done result : Async ε (Option String)) := by
  intro h
  cases provider <;>
  · obtain ⟨answer, hasked, -⟩ := (h [] result).1 ⟨rfl, rfl⟩
    cases hasked

/-- One call of a provider. -/
theorem callsOnly_once {α : Type} {call : ProviderCall} {provider : ETHProvider}
    (hcall : call.provider = .ethereum provider)
    (f : ProviderCall.Answer ε call → Except (TypeError ⊕ ε) α) :
    CallsOnly (· = provider) (.ask call fun answer => .done (f answer) : Async ε α) := by
  intro asked result hruns made hmade called hcalled
  obtain ⟨answer, rfl, -⟩ := Dialog.runs_once.1 hruns
  obtain rfl := List.mem_singleton.1 hmade
  cases hcalled.symm.trans hcall
  rfl

theorem callsOnly_connect (provider : ETHProvider) :
    CallsOnly (· = provider)
      (connectWithEthereumProvider (.ethereum provider) : Async ε (Option String)) :=
  callsOnly_once rfl _

theorem callsOnly_sign (provider : ETHProvider) (message address : String) :
    CallsOnly (· = provider)
      (signMessageWithEthereumProvider (.ethereum provider) message address : Async ε String) :=
  callsOnly_once rfl _

/-- Only the provider that is selected is called. -/
theorem callsOnly_withRequest {α : Type} {p : ETHProvider → Prop} {selected : Option ETHProvider}
    {empty : α} {f : Provider → Async ε α}
    (hf : ∀ provider, CallsOnly (· = provider) (f (.ethereum provider)))
    (h : ∀ provider, selected = some provider → p provider) :
    CallsOnly p (withRequest selected empty f) := by
  cases selected with
  | none =>
    rintro asked result ⟨rfl, -⟩ call hcall
    cases hcall
  | some provider =>
    unfold withRequest
    dsimp only
    split_ifs
    · intro asked result hruns call hcall called hcalled
      obtain rfl := hf provider asked result hruns call hcall called hcalled
      exact h called rfl
    · rintro asked result ⟨rfl, -⟩ call hcall
      cases hcall

/-- Of a wallet with a flag, a provider with the flag is selected, or the one that is injected alone. -/
theorem getFlagged_cases (h : getFlagged window flag = some provider) :
    flag provider = true ∨
      ∃ ethereum, window.ethereum = some ethereum ∧ ethereum.providers = none ∧
        provider = ethereum.toETHProvider := by
  unfold getFlagged at h
  split_ifs at h with hmultiple
  · exact .inl (findProvider_eq_some h).2
  · obtain ⟨ethereum, hethereum, rfl⟩ := Option.map_eq_some_iff.1 h
    refine .inr ⟨ethereum, hethereum, ?_, rfl⟩
    rw [hasMultipleEthereumWallets, hethereum, Option.bind_some, Bool.not_eq_true] at hmultiple
    exact Option.not_isSome_iff_eq_none.1 (by rw [hmultiple]; exact Bool.false_ne_true)

/-- The wallets with a flag: an offered one connects with a provider that has it. -/
theorem connects_getFlagged (hrequest : HasRequests window) (h : hasFlag window flag = true) :
    ∃ provider, Injected window provider ∧ flag provider = true ∧
      Connects (.ethereum provider) (withRequest (getFlagged window flag) (some "")
        connectWithEthereumProvider : Async ε (Option String)) ∧
      ∀ message address, Signs encode (.ethereum provider) message address
        (withRequest (getFlagged window flag) ""
          (signMessageWithEthereumProvider · message address) : Async ε String) := by
  obtain ⟨provider, hget, hinjected, hflag⟩ := getFlagged_of_hasFlag h
  rw [hget]
  have hcan := hrequest.ethereum provider hinjected
  exact ⟨provider, hinjected, hflag, connects_withRequest hcan, signs_withRequest hcan⟩

/-- The other provider that is selected is connected with, and signs. -/
theorem usable_other {provider : ETHProvider} (hrequest : HasRequests window)
    (hget : getOtherInjectedProvider window = .ok (some provider))
    (hkind : IsOfKind window .GenericEthereumWallet (.ethereum provider)) :
    Usable ε encode window .GenericEthereumWallet := by
  have hcan := hrequest.ethereum provider hkind.1
  refine ⟨.ethereum provider, hkind, ?_, fun message address => ?_⟩
  · rw [connectWithWallet, withOther, hget]
    exact connects_withRequest hcan
  · rw [signMessageWithWallet, withOther, hget]
    exact signs_withRequest hcan message address

theorem usable_binance (hrequest : HasRequests window) (h : window.binanceChain.isSome) :
    Usable ε encode window .Binance := by
  obtain ⟨chain, hchain⟩ := Option.isSome_iff_exists.1 h
  have hcan := hrequest.binanceChain chain hchain
  refine ⟨.binanceChain, by rw [IsOfKind, hchain]; rfl, ?_, fun message address => ?_⟩
  · rw [connectWithWallet, withBinanceChain, hchain]
    dsimp only
    rw [if_pos hcan]
    exact fun asked result => Dialog.runs_once
  · rw [signMessageWithWallet, withBinanceChain, hchain]
    dsimp only
    rw [if_pos hcan]
    exact fun asked result => Dialog.runs_once

/-- The two wallets of Solana use the one provider there is. -/
theorem usable_solana {wallet : Wallets} (hwallet : wallet = .Phantom ∨ wallet = .GenericSolanaWallet)
    {solana : Solana} (hsolana : window.solana = some solana)
    (hkind : IsOfKind window wallet .solana) : Usable ε encode window wallet := by
  refine ⟨.solana, hkind, ?_, fun message address => ?_⟩
  · rcases hwallet with rfl | rfl <;> rw [connectWithWallet, hsolana] <;>
      exact fun asked result => Dialog.runs_once
  · rcases hwallet with rfl | rfl <;> rw [signMessageWithWallet, hsolana] <;>
      exact fun asked result => Dialog.runs_once

/-- Where another provider is listed, and none has a flag, it is found. -/
theorem usable_generic (hrequest : HasRequests window) (hother : OtherIsListed window)
    (h : isWalletVisible window .GenericEthereumWallet = .ok true) :
    Usable ε encode window .GenericEthereumWallet := by
  rw [isWalletVisible_other] at h
  obtain ⟨hfirst, hcoinbase⟩ := Bool.and_eq_true_iff.1 (Except.ok.inj h)
  obtain ⟨hethereum, hmetaMask⟩ := Bool.and_eq_true_iff.1 hfirst
  rw [Bool.not_eq_true'] at hcoinbase hmetaMask
  obtain ⟨ethereum, hsome⟩ := Option.isSome_iff_exists.1 hethereum
  have hlisted := hother ethereum hsome
  cases hlist : ethereum.providers with
  | none =>
    -- with a flag, the provider that is injected alone is not another one
    rw [hlist] at hlisted
    rw [hasFlag_single hsome hlist] at hmetaMask
    rw [hasCoinbaseWallet, hasFlag_single hsome hlist] at hcoinbase
    rcases hlisted with hflag | hflag
    · exact absurd hflag (Bool.eq_false_iff.1 hmetaMask)
    · exact absurd hflag (Bool.eq_false_iff.1 hcoinbase)
  | some providers =>
    rw [hlist] at hlisted
    obtain ⟨provider, hfind⟩ := findProvider_other hsome hlist hlisted
      (Bool.eq_false_iff.1 hmetaMask) (Bool.eq_false_iff.1 hcoinbase)
    obtain ⟨hinjected, hflags⟩ := findProvider_eq_some hfind
    obtain ⟨hcb, hmm⟩ := Bool.and_eq_true_iff.1 hflags
    rw [Bool.not_eq_true'] at hcb hmm
    have hget : getOtherInjectedProvider window = .ok (some provider) := by
      rw [getOtherInjectedProvider, if_pos hethereum, hfind]
    exact usable_other hrequest hget
      ⟨hinjected, Bool.eq_false_iff.1 hmm, Bool.eq_false_iff.1 hcb⟩

/-- A wallet that is offered can be used, apart from the generic Ethereum wallet where no other
provider is listed. -/
theorem usable_of_visible {wallet : Wallets} (hrequest : HasRequests window)
    (hother : wallet = .GenericEthereumWallet → OtherIsListed window)
    (h : isWalletVisible window wallet = .ok true) : Usable ε encode window wallet := by
  cases wallet with
  | Metamask =>
    rw [isWalletVisible] at h
    split_ifs at h with hethereum
    · rw [hasMetaMask_eq hethereum] at h
      obtain ⟨provider, hinjected, hflag, hcalls⟩ :=
        connects_getFlagged (ε := ε) hrequest (Except.ok.inj h)
      exact ⟨.ethereum provider, ⟨hinjected, hflag⟩, hcalls⟩
    · cases h
  | Coinbase =>
    have hflag := (Bool.and_eq_true_iff.1 (Except.ok.inj h)).2
    obtain ⟨provider, hinjected, hflag, hcalls⟩ := connects_getFlagged (ε := ε) hrequest hflag
    exact ⟨.ethereum provider, ⟨hinjected, hflag⟩, hcalls⟩
  | GenericEthereumWallet => exact usable_generic hrequest (hother rfl) h
  | Binance => exact usable_binance hrequest (Except.ok.inj h)
  | Phantom =>
    cases hsolana : window.solana with
    | none =>
      rw [isWalletVisible, hsolana] at h
      cases h
    | some solana =>
      rw [isWalletVisible, hsolana] at h
      exact usable_solana (.inl rfl) hsolana ⟨solana, hsolana, Except.ok.inj h⟩
  | GenericSolanaWallet =>
    cases hsolana : window.solana with
    | none =>
      rw [isWalletVisible, hsolana] at h
      cases h
    | some solana =>
      rw [isWalletVisible, hsolana] at h
      have hflag := (Bool.and_eq_true_iff.1 (Except.ok.inj h)).2
      rw [Bool.not_eq_true'] at hflag
      exact usable_solana (.inr rfl) hsolana ⟨solana, hsolana, Bool.eq_false_iff.1 hflag⟩

/-- Where no other provider is listed the generic wallet is offered, and nothing is asked for it. -/
theorem not_usable_of_unlisted (h : ¬ OtherIsListed window) :
    isWalletVisible window .GenericEthereumWallet = .ok true ∧
      ¬ Usable ε encode window .GenericEthereumWallet := by
  unfold OtherIsListed at h
  push Not at h
  obtain ⟨ethereum, hsome, hunlisted⟩ := h
  have hethereum : window.ethereum.isSome := by rw [hsome]; rfl
  have hnone : ethereum.providers = none ∨ ethereum.providers = some [] := by
    cases hlist : ethereum.providers with
    | none => exact .inl rfl
    | some providers =>
      rw [hlist] at hunlisted
      exact .inr (congrArg some (not_not.1 hunlisted))
  constructor
  · rw [isWalletVisible_other, hethereum, hasCoinbaseWallet]
    rcases hnone with hlist | hlist
    · rw [hlist] at hunlisted
      obtain ⟨hmetaMask, hcoinbase⟩ := not_or.1 hunlisted
      rw [hasFlag_single hsome hlist, hasFlag_single hsome hlist]
      rw [Bool.not_eq_true] at hmetaMask hcoinbase
      rw [hmetaMask, hcoinbase]
      rfl
    · rw [hasFlag_empty hsome hlist, hasFlag_empty hsome hlist]
      rfl
  · rintro ⟨provider, -, hconnects, -⟩
    rw [connectWithWallet, withOther, getOtherInjectedProvider, if_pos hethereum,
      findProvider_eq_none hsome hnone] at hconnects
    exact not_connects_done provider _ hconnects

/-- The calls for a wallet with a flag go to providers that have it, unless one is injected alone
without it. -/
theorem callsOnly_getFlagged_iff (hrequest : HasRequests window) :
    (CallsOnly (flag · = true) (withRequest (getFlagged window flag) (some "")
        connectWithEthereumProvider : Async ε (Option String)) ∧
      ∀ message address, CallsOnly (flag · = true) (withRequest (getFlagged window flag) ""
        (signMessageWithEthereumProvider · message address) : Async ε String)) ↔
      ∀ ethereum, window.ethereum = some ethereum → ethereum.providers = none →
        flag ethereum.toETHProvider = true := by
  constructor
  · rintro ⟨hconnect, -⟩ ethereum hethereum hlist
    have hcan := hrequest.ethereum ethereum.toETHProvider ⟨ethereum, hethereum, by rw [hlist]⟩
    have hget : getFlagged window flag = some ethereum.toETHProvider := by
      rw [getFlagged, hasMultipleEthereumWallets, hethereum, Option.bind_some, hlist]
      rfl
    rw [hget, withRequest, if_pos hcan] at hconnect
    have hasked : (connectWithEthereumProvider (.ethereum ethereum.toETHProvider) :
        Async ε (Option String)).Runs
          [⟨⟨.ethereum ethereum.toETHProvider, .eth_requestAccounts⟩, .ok []⟩] (.ok none) :=
      Dialog.runs_once.2 ⟨.ok [], rfl, rfl⟩
    exact hconnect _ _ hasked _ (List.mem_singleton_self _) _ rfl
  · intro hsingle
    have hselected : ∀ provider, getFlagged window flag = some provider → flag provider = true := by
      intro provider hget
      rcases getFlagged_cases hget with hflag | ⟨ethereum, hethereum, hlist, rfl⟩
      · exact hflag
      · exact hsingle ethereum hethereum hlist
    exact ⟨callsOnly_withRequest callsOnly_connect hselected, fun message address =>
      callsOnly_withRequest (callsOnly_sign · message address) hselected⟩

theorem routedByFlag_iff (hrequest : HasRequests window) (wallet : Wallets) :
    RoutedByFlag ε encode window wallet ↔ ∀ ethereum, window.ethereum = some ethereum →
      ethereum.providers = none → hasFlagOf wallet ethereum.toETHProvider := by
  have hany : (∀ provider, hasFlagOf wallet provider = true) →
      (RoutedByFlag ε encode window wallet ↔ ∀ ethereum, window.ethereum = some ethereum →
        ethereum.providers = none → hasFlagOf wallet ethereum.toETHProvider) := fun h =>
    ⟨fun _ ethereum _ _ => h ethereum.toETHProvider,
      fun _ => ⟨fun _ _ _ _ _ provider _ => h provider,
        fun _ _ _ _ _ _ _ provider _ => h provider⟩⟩
  cases wallet with
  | Metamask => exact callsOnly_getFlagged_iff hrequest
  | Coinbase => exact callsOnly_getFlagged_iff hrequest
  | Phantom => exact hany fun _ => rfl
  | Binance => exact hany fun _ => rfl
  | GenericEthereumWallet => exact hany fun _ => rfl
  | GenericSolanaWallet => exact hany fun _ => rfl

/-- The test whether a wallet is offered does not throw; what is offered can be used unless it is the
generic Ethereum wallet and no other provider is listed; and the calls go to providers with the flag
unless one is injected alone without it, by which the wallet is not offered. -/
theorem wallets_usable_iff (hrequest : HasRequests window) (wallet : Wallets) :
    (∃ visible, isWalletVisible window wallet = .ok visible) ∧
      ((isWalletVisible window wallet = .ok true → Usable ε encode window wallet) ↔
        (wallet = .GenericEthereumWallet → OtherIsListed window)) ∧
      (RoutedByFlag ε encode window wallet ↔ ∀ ethereum, window.ethereum = some ethereum →
        ethereum.providers = none → hasFlagOf wallet ethereum.toETHProvider) := by
  refine ⟨isWalletVisible_ok window wallet, ⟨fun h hgeneric => ?_, usable_of_visible hrequest⟩,
    routedByFlag_iff hrequest wallet⟩
  subst hgeneric
  by_contra hunlisted
  obtain ⟨hvisible, hnot⟩ := not_usable_of_unlisted hunlisted
  exact hnot (h hvisible)

/-- A page on which another extension than MetaMask and Coinbase is injected alone. -/
def otherAlone : Window := ⟨some ⟨⟨0, none, none, true⟩, none⟩, none, none⟩

/-- A page with a list of two providers. -/
def metaMaskAndOther : Window :=
  ⟨some ⟨⟨0, none, none, true⟩, some [⟨1, some true, none, true⟩, ⟨2, none, none, true⟩]⟩, none, none⟩

theorem hasRequests_metaMaskAndOther : HasRequests metaMaskAndOther := by
  refine ⟨?_, nofun⟩
  rintro provider ⟨ethereum, ⟨⟩, hmem⟩
  rcases List.mem_cons.1 hmem with rfl | hmem
  · rfl
  · obtain rfl := List.mem_singleton.1 hmem
    rfl

theorem wallets_usable_metaMask :
    HasRequests metaMaskAndOther ∧ Usable String (fun _ => "") metaMaskAndOther .Metamask ∧
      RoutedByFlag String (fun _ => "") metaMaskAndOther .Metamask := by
  obtain ⟨-, husable, hrouted⟩ := wallets_usable_iff hasRequests_metaMaskAndOther .Metamask
  refine ⟨hasRequests_metaMaskAndOther, husable.2 nofun rfl, hrouted.2 ?_⟩
  rintro ethereum ⟨⟩ ⟨⟩

/-- The generic wallet is offered, and connecting with it gives the empty address without a call. -/
theorem other_alone_not_usable :
    ¬ ∀ window, HasRequests window → ∀ wallet, isWalletVisible window wallet = .ok true →
      Usable String (fun _ => "") window wallet := by
  intro hall
  have hrequests : HasRequests otherAlone := by
    refine ⟨?_, nofun⟩
    rintro provider ⟨ethereum, ⟨⟩, rfl⟩
    rfl
  obtain ⟨provider, -, hconnects, -⟩ := hall otherAlone hrequests .GenericEthereumWallet rfl
  exact not_connects_done provider (.ok (some "")) hconnects

end StytchBrowser.Web
