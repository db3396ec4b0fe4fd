import Intraday.Lib.Dict
import Intraday.Core.Constants

/-!
# Intraday.Compliance.StrategyRegistry — `strategy_registry.py`

Every strategy name maps to a broker tag of at most eight characters. The tags
come from the environment, with defaults; an override that is too long is cut.
A registry carries the bound on its tags.
-/

namespace Intraday.Compliance

open Intraday.Core Intraday.Lib

/-- `GENERIC_ALGO_TAG`. -/
def genericAlgoTag : String := "GENALG01"

/-- `_DEFAULT_TAGS`. -/
def defaultTags : List (String × String) :=
  [("EMA_VWAP_TREND", "STRAT001"),
   ("ORB_BREAKOUT", "STRAT002"),
   ("MOMENTUM_RSI", "STRAT003"),
   ("MEAN_REVERT_PIVOT", "STRAT004"),
   ("ORDER_FLOW_ABSORPTION", "STRAT005"),
   ("GENERIC", genericAlgoTag)]

/-- The process environment: `os.environ`. -/
abbrev Environ := String → Option String

/-- `_env_key`. -/
def envKey (strategyName : String) : String := "STRATEGY_ID_" ++ strategyName

/-- `str.isspace` on one character. -/
def isSpace (c : Char) : Bool :=
  let n := c.toNat
  (9 ≤ n && n ≤ 13) || (28 ≤ n && n ≤ 32) || n == 0x85 || n == 0xa0 || n == 0x1680 ||
    (0x2000 ≤ n && n ≤ 0x200a) || n == 0x2028 || n == 0x2029 || n == 0x202f || n == 0x205f ||
    n == 0x3000

/-- `str.strip()`. -/
def strip (s : String) : String :=
  String.ofList (((s.toList.dropWhile isSpace).reverse.dropWhile isSpace).reverse)

/-- A tag over `STRATEGY_ID_MAX_LENGTH` is cut to its first characters. -/
def capTag (tag : String) : String :=
  if strategyIdMaxLength < tag.length then
    String.ofList (tag.toList.take strategyIdMaxLength)
  else
    tag

/-- The tag `_load_registry` settles on for one strategy. -/
def resolveTag (environ : Environ) (useGeneric : Bool) (name defaultTag : String) : String :=
  if useGeneric then
    genericAlgoTag
  else
    let envVal := strip ((environ (envKey name)).getD "")
    capTag (if envVal ≠ "" then envVal else defaultTag)

/-- `registry[name] = …` for each entry of the table. -/
def loadTags (tagFor : String → String → String) (table : List (String × String)) :
    Dict String String :=
  table.foldl (fun registry entry => registry.set entry.1 (tagFor entry.1 entry.2)) Dict.empty

/-- `_load_registry`. -/
def loadRegistry (environ : Environ) (useGeneric : Bool) : Dict String String :=
  loadTags (resolveTag environ useGeneric) defaultTags

/-- A tag a broker accepts. -/
def ShortTag (tag : String) : Prop := tag.length ≤ strategyIdMaxLength

theorem shortTag_generic : ShortTag genericAlgoTag := by
  show genericAlgoTag.length ≤ 8
  decide

theorem shortTag_capTag (tag : String) : ShortTag (capTag tag) := by
  unfold ShortTag capTag
  by_cases h : strategyIdMaxLength < tag.length
  · rw [if_pos h, String.length_ofList, List.length_take]
    exact Nat.min_le_left _ _
  · rw [if_neg h]
    exact Nat.not_lt.mp h

theorem shortTag_resolveTag (environ : Environ) (useGeneric : Bool) (name defaultTag : String) :
    ShortTag (resolveTag environ useGeneric name defaultTag) := by
  cases useGeneric with
  | true =>
      rw [resolveTag, if_pos rfl]
      exact shortTag_generic
  | false =>
      rw [resolveTag, if_neg Bool.false_ne_true]
      exact shortTag_capTag _

/-- Setting short tags one by one leaves a registry of short tags. -/
theorem shortTag_loadTags {tagFor : String → String → String} (hf : ∀ n d, ShortTag (tagFor n d))
    (table : List (String × String)) {name tag : String}
    (h : (loadTags tagFor table).get? name = some tag) : ShortTag tag := by
  -- the induction is over the table, with the registry built so far general
  suffices hl : ∀ reg : Dict String String, (∀ n t, reg.get? n = some t → ShortTag t) →
      ∀ n t, (table.foldl (fun registry entry => registry.set entry.1 (tagFor entry.1 entry.2))
        reg).get? n = some t → ShortTag t from
    hl Dict.empty (fun _ _ h => nomatch h) name tag h
  clear h
  induction table with
  | nil => exact fun reg hreg => hreg
  | cons entry rest ih =>
      intro reg hreg
      apply ih
      intro n t ht
      by_cases hn : n = entry.1
      · subst hn
        rw [Dict.get?_set_self] at ht
        exact Option.some.inj ht ▸ hf _ _
      · rw [Dict.get?_set_of_ne _ _ hn] at ht
        exact hreg n t ht

theorem shortTag_loadRegistry (environ : Environ) (useGeneric : Bool) (name tag : String)
    (h : (loadRegistry environ useGeneric).get? name = some tag) : ShortTag tag :=
  shortTag_loadTags (shortTag_resolveTag environ useGeneric) defaultTags h

/-- `StrategyRegistry`: a mapping to short tags, never changed after it is built. -/
structure StrategyRegistry where
  useGeneric : Bool
  registry : Dict String String
  short : ∀ name tag, registry.get? name = some tag → ShortTag tag

/-- `StrategyRegistry.__init__`: without an explicit choice the environment
decides whether the generic credential is used. -/
def StrategyRegistry.init (environ : Environ) (useGeneric : Option Bool := none) :
    StrategyRegistry :=
  let generic := useGeneric.getD
    (((environ "USE_GENERIC_ALGO_ID").getD "false").toLower == "true")
  { useGeneric := generic
    registry := loadRegistry environ generic
    short := shortTag_loadRegistry environ generic }

/-- `StrategyRegistry.resolve`. -/
def StrategyRegistry.resolve (r : StrategyRegistry) (strategyName : String) : Option String :=
  if r.useGeneric then some genericAlgoTag else r.registry.get? strategyName

/-- A resolved tag is short. -/
theorem StrategyRegistry.resolve_short {r : StrategyRegistry} {name tag : String}
    (h : r.resolve name = some tag) : ShortTag tag := by
  simp only [resolve] at h
  split at h
  · exact Option.some.inj h ▸ shortTag_generic
  · exact r.short name tag h

end Intraday.Compliance
