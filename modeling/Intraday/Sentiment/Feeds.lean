import Intraday.Lib.Raise
import Intraday.Lib.Traverse
import Intraday.Sentiment.Models

/-!
# Intraday.Sentiment.Feeds — `shared/sentiment/feeds.py`

The time of a feed entry comes as a structure, which is one of UTC, or as a text. The structure is
read by `mktime`, which takes it for a local time of the host; a text without an offset is taken for
one, too. So an entry has its time exactly if the host is at UTC then (`feed_utc_iff`).
-/

namespace Intraday.Sentiment

open Intraday.Compliance (strip)
open Intraday.Lib Intraday.Lib.Raise

/-! ## Times -/

/-- A `datetime` of UTC, in microseconds since the first midnight. -/
@[ext]
structure UtcTime where
  instant : ℤ
  range : 0 ≤ instant ∧ instant ≤ maxWall

instance : DecidableEq UtcTime := fun _ _ => decidable_of_iff _ UtcTime.ext_iff.symm

/-- The time at a moment; `none` if there is no `datetime` for it. -/
def UtcTime.at? (instant : ℤ) : Option UtcTime :=
  if h : 0 ≤ instant ∧ instant ≤ maxWall then some ⟨instant, h⟩ else none

theorem UtcTime.at?_instant (t : UtcTime) : UtcTime.at? t.instant = some t := dif_pos t.range

theorem UtcTime.at?_eq_some_iff {instant : ℤ} {t : UtcTime} :
    UtcTime.at? instant = some t ↔ instant = t.instant := by
  constructor
  · intro h
    rw [UtcTime.at?] at h
    split at h
    · rw [← Option.some.inj h]
    · cases h
  · rintro rfl
    exact t.at?_instant

/-- A `struct_time`: what the clock shows, in microseconds since the first midnight. -/
@[ext]
structure StructTime where
  wall : ℤ
  range : 0 ≤ wall ∧ wall ≤ maxWall

instance : DecidableEq StructTime := fun _ _ => decidable_of_iff _ StructTime.ext_iff.symm

/-- The timezone of the host, by its offsets to UTC in microseconds: that of a local time as
`mktime` reads it, with the flag for daylight saving that feedparser sets, and that of a naive
`datetime` as `astimezone` reads it. -/
structure Host where
  structOffset : StructTime → ℤ
  naiveOffset : PyDateTime → ℤ

/-- An entry as feedparser returns it. -/
structure FeedEntry where
  title : String
  link : Option String
  publishedParsed : Option StructTime
  published : Option String
deriving DecidableEq

/-- What reading an entry raises. -/
inductive FeedExc where
  | yearOutOfRange
  | overflowError
deriving DecidableEq

/-! ## Reading the time of an entry -/

/-- `t.astimezone(timezone.utc)`; `none` is an `OverflowError`. -/
def astimezone (host : Host) (t : PyDateTime) : Option UtcTime :=
  UtcTime.at? (t.wall - t.utcoffset.getD (host.naiveOffset t))

/-- The text of an entry as `parsedate_to_datetime` reads it; an exception is `none`. -/
def publishedText (parsedate : String → Option PyDateTime) (e : FeedEntry) : Option PyDateTime :=
  (e.published.filter (· ≠ "")).bind parsedate

/-- `_parse_entry_time`. -/
def parseEntryTime (host : Host) (parsedate : String → Option PyDateTime) (e : FeedEntry) :
    Except FeedExc (Option UtcTime) :=
  match e.publishedParsed with
  | some t =>
      (UtcTime.at? (t.wall - host.structOffset t)).elim (.error .yearOutOfRange) (.ok ∘ some)
  | none => .ok ((publishedText parsedate e).bind (astimezone host))

/-- `_cutoff_utc`. -/
def cutoffUtc (now : UtcTime) (maxAgeHours : ℤ) : Except FeedExc UtcTime :=
  (UtcTime.at? (now.instant - maxAgeHours * 3600000000)).elim (.error .overflowError) .ok

/-! ## Fetching a feed -/

/-- `Headline`, as a feed gives it. -/
structure FeedHeadline where
  text : String
  url : Option String
  source : String
  publishedAt : UtcTime
  exchange : Option String
deriving DecidableEq

/-- `Headline.__post_init__`, of a time of UTC. -/
def headlineAccepted (text : String) (exchange : Option String) : Bool :=
  decide (strip text ≠ "") && exchange.all fun e => decide (e ∈ ["NSE", "ASX"])

/-- An entry with its time: it is skipped if it is too old or makes no headline. -/
def headlineAt (source : String) (exchange : Option String) (cutoff pub : UtcTime)
    (e : FeedEntry) : Option FeedHeadline :=
  if pub.instant < cutoff.instant then none
  else if headlineAccepted (strip e.title) exchange then
    some
      { text := strip e.title, url := e.link.filter (· ≠ ""), source := source
        publishedAt := pub, exchange := exchange }
  else none

/-- One turn of the loop, where `now` is what the clock shows if it is asked. -/
def fetchEntry (host : Host) (parsedate : String → Option PyDateTime) (source : String)
    (exchange : Option String) (cutoff now : UtcTime) (e : FeedEntry) :
    Except FeedExc (Option FeedHeadline) :=
  if strip e.title = "" then .ok none
  else do
    let pub ← parseEntryTime host parsedate e
    pure (headlineAt source exchange cutoff (pub.getD now) e)

/-- `fetch_rss_headlines`, with the entries of the feed and what the clock shows: first for the
cutoff, then for each entry. -/
def fetchRssHeadlines (host : Host) (parsedate : String → Option PyDateTime) (source : String)
    (exchange : Option String) (maxAgeHours : ℤ) (clock : ℕ → UtcTime)
    (entries : List FeedEntry) : Except FeedExc (List FeedHeadline) := do
  let cutoff ← cutoffUtc (clock 0) maxAgeHours
  let headlines ← entries.zipIdx.mapM fun p =>
    fetchEntry host parsedate source exchange cutoff (clock (p.2 + 1)) p.1
  pure (headlines.filterMap id)

/-! ## The time that an entry denotes -/

/-- The moment of a `datetime` from a text; without an offset the text is one of UTC. -/
def textDenotes (t : PyDateTime) : Option UtcTime := UtcTime.at? (t.wall - t.utcoffset.getD 0)

/-- The time that an entry denotes, by its structure if it has one. -/
def denotes (parsedate : String → Option PyDateTime) (e : FeedEntry) : Option UtcTime :=
  match e.publishedParsed with
  | some t => UtcTime.at? t.wall
  | none => (publishedText parsedate e).bind textDenotes

/-- The textual form of an entry. -/
def FeedEntry.textOnly (e : FeedEntry) : FeedEntry := { e with publishedParsed := none }

/-- An entry has the time that it denotes, and so has its textual form, if that denotes the same. -/
structure TimedInUtc (host : Host) (parsedate : String → Option PyDateTime) (e : FeedEntry) :
    Prop where
  instant : ∀ t, denotes parsedate e = some t → parseEntryTime host parsedate e = .ok (some t)
  twins : ∀ t, denotes parsedate e = some t → denotes parsedate e.textOnly = some t →
    parseEntryTime host parsedate e.textOnly = .ok (some t)

/-- The headlines of the entries that are not older than the cutoff; an entry that denotes no time
is as new as the clock. -/
def youngHeadlines (parsedate : String → Option PyDateTime) (source : String)
    (exchange : Option String) (cutoff : UtcTime) (clock : ℕ → UtcTime)
    (entries : List FeedEntry) : List FeedHeadline :=
  entries.zipIdx.filterMap fun p =>
    if strip p.1.title = "" then none
    else headlineAt source exchange cutoff ((denotes parsedate p.1).getD (clock (p.2 + 1))) p.1

/-- What is promised of a feed: its entries have the times that they denote, and whenever it is
fetched, those are kept that are not too old. -/
structure FeedInUtc (host : Host) (parsedate : String → Option PyDateTime)
    (entries : List FeedEntry) : Prop where
  timed : ∀ e ∈ entries, TimedInUtc host parsedate e
  kept : ∀ (source : String) (exchange : Option String) (maxAgeHours : ℤ) (clock : ℕ → UtcTime)
    (cutoff : UtcTime), cutoffUtc (clock 0) maxAgeHours = .ok cutoff →
    fetchRssHeadlines host parsedate source exchange maxAgeHours clock entries =
      .ok (youngHeadlines parsedate source exchange cutoff clock entries)

/-- The host is at UTC where it reads an entry: the structure, and a text without an offset, if it
is all there is or denotes the same as the structure. -/
structure ReadAtUtc (host : Host) (parsedate : String → Option PyDateTime) (e : FeedEntry) :
    Prop where
  struct : ∀ t, e.publishedParsed = some t → host.structOffset t = 0
  naive : ∀ t, publishedText parsedate e = some t → t.utcoffset = none →
    (∀ s, e.publishedParsed = some s → s.wall = t.wall) → host.naiveOffset t = 0

section Feed

variable {host : Host} {parsedate : String → Option PyDateTime} {e : FeedEntry}

theorem parseEntryTime_textOnly (host : Host) (parsedate : String → Option PyDateTime)
    (e : FeedEntry) : parseEntryTime host parsedate e.textOnly =
      .ok ((publishedText parsedate e).bind (astimezone host)) := rfl

theorem denotes_textOnly (parsedate : String → Option PyDateTime) (e : FeedEntry) :
    denotes parsedate e.textOnly = (publishedText parsedate e).bind textDenotes := rfl

theorem textOnly_of_none (h : e.publishedParsed = none) : e.textOnly = e := by
  rw [FeedEntry.textOnly, ← h]

/-- A naive text has its time if the host is at UTC, and an aware one always. -/
theorem astimezone_eq_iff {d : PyDateTime} {t : UtcTime} (h : textDenotes d = some t) :
    astimezone host d = some t ↔ (d.utcoffset = none → host.naiveOffset d = 0) := by
  rw [textDenotes, UtcTime.at?_eq_some_iff] at h
  rw [astimezone, UtcTime.at?_eq_some_iff]
  cases hoffset : d.utcoffset with
  | none =>
      rw [hoffset, Option.getD_none] at h
      rw [Option.getD_none, ← h]
      constructor
      · intro heq _
        omega
      · intro hzero
        rw [hzero rfl]
  | some offset =>
      rw [hoffset, Option.getD_some] at h
      rw [Option.getD_some]
      exact iff_of_true h (fun hnone => by cases hnone)

/-- A naive time is one of UTC. -/
theorem textDenotes_naive {d : PyDateTime} (h : d.utcoffset = none) :
    textDenotes d = some ⟨d.wall, d.range⟩ := by
  rw [textDenotes, h, Option.getD_none, sub_zero]
  exact UtcTime.at?_instant ⟨d.wall, d.range⟩

/-- The textual form of an entry, where it denotes a time. -/
theorem parseEntryTime_textOnly_iff {t : UtcTime} (h : denotes parsedate e.textOnly = some t) :
    parseEntryTime host parsedate e.textOnly = .ok (some t) ↔
      ∀ d, publishedText parsedate e = some d → d.utcoffset = none → host.naiveOffset d = 0 := by
  rw [denotes_textOnly, Option.bind_eq_some_iff] at h
  rcases h with ⟨d, htext, hdenotes⟩
  rw [parseEntryTime_textOnly, htext, Option.bind_some, Except.ok.injEq,
    astimezone_eq_iff hdenotes]
  simp only [Option.some.injEq, forall_eq']

/-- An entry is timed right exactly if it is read where the host is at UTC. -/
theorem timedInUtc_iff : TimedInUtc host parsedate e ↔ ReadAtUtc host parsedate e := by
  cases hparsed : e.publishedParsed with
  | none =>
      have hsame := textOnly_of_none hparsed
      constructor
      · intro h
        refine { struct := ?_, naive := ?_ }
        · intro t ht
          rw [hparsed] at ht
          cases ht
        · intro d htext hnaive _
          have hdenotes : denotes parsedate e.textOnly = some ⟨d.wall, d.range⟩ := by
            rw [denotes_textOnly, htext, Option.bind_some, textDenotes_naive hnaive]
          have hparse := h.instant _ (hsame ▸ hdenotes)
          rw [← hsame] at hparse
          exact (parseEntryTime_textOnly_iff hdenotes).mp hparse d htext hnaive
      · intro h
        have hall : ∀ t, denotes parsedate e.textOnly = some t →
            parseEntryTime host parsedate e.textOnly = .ok (some t) := by
          intro t ht
          refine (parseEntryTime_textOnly_iff ht).mpr ?_
          intro d htext hnaive
          refine h.naive d htext hnaive ?_
          intro s hs
          rw [hparsed] at hs
          cases hs
        exact { instant := hsame ▸ hall, twins := fun t _ ht => hall t ht }
  | some s =>
      have hdenotes : denotes parsedate e = some ⟨s.wall, s.range⟩ := by
        rw [denotes, hparsed]
        exact UtcTime.at?_instant ⟨s.wall, s.range⟩
      have hinstant : parseEntryTime host parsedate e = .ok (some ⟨s.wall, s.range⟩) ↔
          host.structOffset s = 0 := by
        rw [parseEntryTime, hparsed]
        constructor
        · intro h
          cases hat : UtcTime.at? (s.wall - host.structOffset s) with
          | none =>
              simp only [hat, Option.elim_none] at h
              cases h
          | some t =>
              simp only [hat, Option.elim_some, Function.comp_apply, Except.ok.injEq,
                Option.some.injEq] at h
              rw [UtcTime.at?_eq_some_iff, h] at hat
              simp only at hat
              omega
        · intro hzero
          simp only [hzero, sub_zero, UtcTime.at?_instant ⟨s.wall, s.range⟩]
          rfl
      constructor
      · intro h
        refine { struct := ?_, naive := ?_ }
        · intro t ht
          rw [hparsed, Option.some.injEq] at ht
          rw [← ht]
          exact hinstant.mp (h.instant _ hdenotes)
        · intro d htext hnaive hwall
          -- the text denotes what the structure does, so the two are twins
          have htwin : denotes parsedate e.textOnly = some ⟨s.wall, s.range⟩ := by
            rw [denotes_textOnly, htext, Option.bind_some, textDenotes_naive hnaive,
              Option.some.injEq, UtcTime.mk.injEq]
            exact (hwall s hparsed).symm
          exact (parseEntryTime_textOnly_iff htwin).mp (h.twins _ hdenotes htwin) d htext hnaive
      · intro h
        refine { instant := ?_, twins := ?_ }
        · intro t ht
          rw [hdenotes, Option.some.injEq] at ht
          rw [← ht]
          exact hinstant.mpr (h.struct s hparsed)
        · intro t ht htwin
          refine (parseEntryTime_textOnly_iff htwin).mpr ?_
          intro d htext hnaive
          refine h.naive d htext hnaive ?_
          intro s' hs'
          rw [denotes_textOnly, htext, Option.bind_some, textDenotes_naive hnaive, ← ht, hdenotes,
            Option.some.injEq, UtcTime.mk.injEq] at htwin
          rw [hparsed, Option.some.injEq] at hs'
          rw [← hs', htwin]

/-- An entry that is read where the host is at UTC has the time that it denotes, if any. -/
theorem parseEntryTime_eq (h : ReadAtUtc host parsedate e) :
    parseEntryTime host parsedate e = .ok (denotes parsedate e) := by
  cases hdenotes : denotes parsedate e with
  | some t => exact (timedInUtc_iff.mpr h).instant t hdenotes
  | none =>
      cases hparsed : e.publishedParsed with
      | some s =>
          rw [denotes, hparsed] at hdenotes
          exact absurd hdenotes (by simp [UtcTime.at?_instant ⟨s.wall, s.range⟩])
      | none =>
          rw [denotes, hparsed] at hdenotes
          rw [parseEntryTime, hparsed]
          cases htext : publishedText parsedate e with
          | none => rfl
          | some d =>
              -- what is no `datetime` of UTC is none for `astimezone`, too
              rw [htext, Option.bind_some] at hdenotes
              cases hoffset : d.utcoffset with
              | none =>
                  rw [textDenotes_naive hoffset] at hdenotes
                  cases hdenotes
              | some offset =>
                  rw [textDenotes, hoffset, Option.getD_some] at hdenotes
                  simp only [Option.bind_some, astimezone, hoffset, Option.getD_some, hdenotes]

end Feed

/-- A feed is read right exactly if each of its entries is read where the host is at UTC. -/
theorem feed_utc_iff (host : Host) (parsedate : String → Option PyDateTime)
    (entries : List FeedEntry) :
    FeedInUtc host parsedate entries ↔ ∀ e ∈ entries, ReadAtUtc host parsedate e := by
  constructor
  · intro h e he
    exact timedInUtc_iff.mp (h.timed e he)
  · intro h
    refine { timed := fun e he => timedInUtc_iff.mpr (h e he), kept := ?_ }
    intro source exchange maxAgeHours clock cutoff hcutoff
    have hentry : ∀ p ∈ entries.zipIdx,
        fetchEntry host parsedate source exchange cutoff (clock (p.2 + 1)) p.1 =
          .ok (if strip p.1.title = "" then none
            else headlineAt source exchange cutoff
              ((denotes parsedate p.1).getD (clock (p.2 + 1))) p.1) := by
      intro p hp
      rw [fetchEntry, parseEntryTime_eq (h p.1 (List.fst_mem_of_mem_zipIdx hp))]
      split
      · rfl
      · rfl
    rw [fetchRssHeadlines, hcutoff, youngHeadlines]
    simp only [bind, Except.bind, mapM_eq_map hentry, pure, Except.pure, List.filterMap_map]
    rfl

/-- A host in India, five and a half hours ahead of UTC. -/
def kolkataHost : Host where
  structOffset := fun _ => 19800000000
  naiveOffset := fun _ => 19800000000

/-- An entry of 16 January 2024, 4:00 UTC. -/
def morningEntry : FeedEntry where
  title := "RBI holds rates"
  link := none
  publishedParsed := some ⟨738900 * 86400000000 + 4 * 3600000000, by decide⟩
  published := none

/-- The entry gets the time 22:30 of the day before. -/
theorem local_host_shifts_entries :
    ¬∀ (host : Host) (parsedate : String → Option PyDateTime) (entries : List FeedEntry),
      FeedInUtc host parsedate entries := by
  intro h
  have htimed := (h kolkataHost (fun _ => none) [morningEntry]).timed _ List.mem_cons_self
  have hoffset : kolkataHost.structOffset _ = 0 := (timedInUtc_iff.mp htimed).struct _ rfl
  revert hoffset
  decide

end Intraday.Sentiment
