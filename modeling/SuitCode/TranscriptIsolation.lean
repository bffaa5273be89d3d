import SuitCode.CodexAgreement
import SuitCode.NativeAnalytics
import Mathlib.Tactic.Positivity

/-!
# Transcripts which cannot be read

A transcript the parser refuses is skipped and noted.  What the later readers raise goes
through, and so does a clash of the sightings of a tool in different sessions, so that the
summary is isolated from the transcripts exactly when none of these happens.
-/

namespace SuitCode

open PosixText KeyedList ExceptList

/-! ## Sightings of tools -/

section Sightings

variable (tools : List NativeSuitCodeToolUse) (toolName : String)

def firstSightings : List ℤ :=
  (tools.filter fun tool => tool.toolName = toolName).filterMap
    NativeSuitCodeToolUse.firstSeenAt

def lastSightings : List ℤ :=
  (tools.filter fun tool => tool.toolName = toolName).filterMap
    NativeSuitCodeToolUse.lastSeenAt

/-- A tool with first and last sightings has a first one which is no later than some last
one. -/
def SightingsInOrder : Prop :=
  ∀ toolName, firstSightings tools toolName ≠ [] → lastSightings tools toolName ≠ [] →
    ∃ first ∈ firstSightings tools toolName, ∃ last ∈ lastSightings tools toolName,
      first ≤ last

end Sightings

/-- The value to which none of the values is preferred, where there are any. -/
structure IsBest (better : ℤ → ℤ → Bool) (best : Option ℤ) (values : List ℤ) : Prop where
  none_iff : best = none ↔ values = []
  mem : ∀ value, best = some value → value ∈ values
  unbeaten : ∀ value, best = some value → ∀ other ∈ values, better other value = false

theorem isBest_nil (better : ℤ → ℤ → Bool) : IsBest better none [] :=
  ⟨by simp, by simp, by simp⟩

theorem isBest_betterSeen {better : ℤ → ℤ → Bool} {best seen : Option ℤ} {values : List ℤ}
    (hirrefl : ∀ value, better value value = false)
    (hcompare : ∀ value known other, better value known = true → better other known = false →
      better other value = false)
    (hbest : IsBest better best values) :
    IsBest better (betterSeen better best seen) (values ++ seen.toList) := by
  rcases hbest with ⟨hnone, hmem, hunbeaten⟩
  cases best with
  | none =>
      rw [hnone.mp rfl]
      cases seen with
      | none => exact isBest_nil better
      | some value =>
          refine ⟨by simp [betterSeen], by simp [betterSeen], ?_⟩
          intro best hsome other hother
          simp only [betterSeen, Option.some.injEq] at hsome
          subst hsome
          simp only [Option.toList_some, List.nil_append, List.mem_singleton] at hother
          rw [hother]
          exact hirrefl value
  | some known =>
      have hknown := hmem known rfl
      have hall := hunbeaten known rfl
      cases seen with
      | none =>
          refine ⟨?_, ?_, ?_⟩
          · simpa [betterSeen] using List.ne_nil_of_mem hknown
          · simpa [betterSeen] using hknown
          · simpa [betterSeen] using hall
      | some value =>
          by_cases hbetter : better value known = true
          · refine ⟨by simp [betterSeen, hbetter], by simp [betterSeen, hbetter], ?_⟩
            intro best hsome other hother
            simp only [betterSeen, Option.any_some, hbetter, if_true,
              Option.some.injEq] at hsome
            subst hsome
            rcases List.mem_append.mp hother with hother | hother
            · exact hcompare value known other hbetter (hall other hother)
            · rw [Option.toList_some, List.mem_singleton] at hother
              rw [hother]
              exact hirrefl value
          · refine ⟨by simp [betterSeen, hbetter], ?_, ?_⟩
            · simpa [betterSeen, hbetter] using Or.inl hknown
            · intro best hsome other hother
              simp only [betterSeen, Option.any_some, hbetter, Bool.false_eq_true, if_false,
                Option.some.injEq] at hsome
              subst hsome
              rcases List.mem_append.mp hother with hother | hother
              · exact hall other hother
              · rw [Option.toList_some, List.mem_singleton] at hother
                rw [hother]
                simpa using hbetter

/-! ## The counts of tools -/

/-- What the counts of a tool say of the uses of tools seen so far. -/
structure Describes (tools : List NativeSuitCodeToolUse) (stats : ToolCounts) : Prop where
  named : isBlank stats.toolName = false
  counted : 0 < stats.count
  first : IsBest (fun tool known => tool < known) stats.firstSeenAt
    (firstSightings tools stats.toolName)
  last : IsBest (fun tool known => known < tool) stats.lastSeenAt
    (lastSightings tools stats.toolName)

structure Tabled (tools : List NativeSuitCodeToolUse) (table : List ToolCounts) : Prop where
  described : ∀ stats ∈ table, Describes tools stats
  complete : ∀ tool ∈ tools, ∃ stats ∈ table, stats.toolName = tool.toolName

variable {stats : ToolCounts} {session : NativeSessionAnalytics}

section Snoc

variable {tools : List NativeSuitCodeToolUse} {tool : NativeSuitCodeToolUse} {toolName : String}

theorem firstSightings_snoc (hsame : tool.toolName = toolName) :
    firstSightings (tools ++ [tool]) toolName =
      firstSightings tools toolName ++ tool.firstSeenAt.toList := by
  cases hseen : tool.firstSeenAt <;> simp [firstSightings, hsame, hseen]

theorem lastSightings_snoc (hsame : tool.toolName = toolName) :
    lastSightings (tools ++ [tool]) toolName =
      lastSightings tools toolName ++ tool.lastSeenAt.toList := by
  cases hseen : tool.lastSeenAt <;> simp [lastSightings, hsame, hseen]

theorem sightings_snoc_of_ne (hother : tool.toolName ≠ toolName) :
    firstSightings (tools ++ [tool]) toolName = firstSightings tools toolName ∧
      lastSightings (tools ++ [tool]) toolName = lastSightings tools toolName := by
  simp [firstSightings, lastSightings, hother]

theorem Describes.of_ne (hdescribes : Describes tools stats)
    (hother : tool.toolName ≠ stats.toolName) : Describes (tools ++ [tool]) stats := by
  have hsame : firstSightings (tools ++ [tool]) stats.toolName =
      firstSightings tools stats.toolName ∧
        lastSightings (tools ++ [tool]) stats.toolName = lastSightings tools stats.toolName :=
    sightings_snoc_of_ne hother
  rcases hdescribes with ⟨hnamed, hcounted, hearliest, hlatest⟩
  exact ⟨hnamed, hcounted, by rwa [hsame.1], by rwa [hsame.2]⟩

theorem describes_see (hnamed : isBlank stats.toolName = false)
    (hsame : tool.toolName = stats.toolName)
    (hfirst : IsBest (fun tool known => tool < known) stats.firstSeenAt
      (firstSightings tools stats.toolName))
    (hlast : IsBest (fun tool known => known < tool) stats.lastSeenAt
      (lastSightings tools stats.toolName)) :
    Describes (tools ++ [tool]) (stats.see tool) := by
  have hpos := tool.callCount_pos
  constructor
  · exact hnamed
  · simp only [ToolCounts.see]
    omega
  · simp only [ToolCounts.see]
    rw [firstSightings_snoc hsame]
    apply isBest_betterSeen _ _ hfirst
    · simp
    · simp only [decide_eq_true_eq, decide_eq_false_iff_not]
      omega
  · simp only [ToolCounts.see]
    rw [lastSightings_snoc hsame]
    apply isBest_betterSeen _ _ hlast
    · simp
    · simp only [decide_eq_true_eq, decide_eq_false_iff_not]
      omega

end Snoc

theorem sightings_of_new {tools : List NativeSuitCodeToolUse} {toolName : String}
    (hnew : ∀ tool ∈ tools, tool.toolName ≠ toolName) :
    firstSightings tools toolName = [] ∧ lastSightings tools toolName = [] := by
  have hnone : (tools.filter fun tool => tool.toolName = toolName) = [] := by
    rw [List.filter_eq_nil_iff]
    intro tool htool
    simpa using hnew tool htool
  simp [firstSightings, lastSightings, hnone]

theorem tabled_countToolUse {tools : List NativeSuitCodeToolUse} {table : List ToolCounts}
    {tool : NativeSuitCodeToolUse} (htabled : Tabled tools table) :
    Tabled (tools ++ [tool]) (countToolUse table tool) := by
  unfold countToolUse
  cases hleader : leader? ToolCounts.toolName table tool.toolName with
  | none =>
      have habsent : ∀ stats ∈ table, stats.toolName ≠ tool.toolName := by
        intro stats hstats heq
        rcases exists_leader ToolCounts.toolName hstats with ⟨found, hfound⟩
        rw [heq, hleader] at hfound
        cases hfound
      have hnew : ∀ earlier ∈ tools, earlier.toolName ≠ tool.toolName := by
        intro earlier hearlier heq
        rcases htabled.complete earlier hearlier with ⟨stats, hstats, hname⟩
        exact habsent stats hstats (hname.trans heq)
      rcases sightings_of_new hnew with ⟨hfirst, hlast⟩
      constructor
      · intro stats hstats
        rcases List.mem_append.mp hstats with hstats | hstats
        · exact (htabled.described stats hstats).of_ne (habsent stats hstats).symm
        · rw [List.mem_singleton.mp hstats]
          apply describes_see tool.toolName_nonblank rfl
          · rw [hfirst]
            exact isBest_nil _
          · rw [hlast]
            exact isBest_nil _
      · intro other hother
        rcases List.mem_append.mp hother with hother | hother
        · rcases htabled.complete other hother with ⟨stats, hstats, hname⟩
          exact ⟨stats, List.mem_append_left _ hstats, hname⟩
        · rw [List.mem_singleton.mp hother]
          exact ⟨_, List.mem_append_right _ (List.mem_singleton_self _), rfl⟩
  | some found =>
      constructor
      · intro stats hstats
        rcases List.mem_map.mp hstats with ⟨earlier, hearlier, rfl⟩
        have hdescribes := htabled.described earlier hearlier
        by_cases hsame : earlier.toolName = tool.toolName
        · rw [if_pos hsame]
          exact describes_see hdescribes.named hsame.symm hdescribes.first hdescribes.last
        · rw [if_neg hsame]
          exact hdescribes.of_ne (Ne.symm hsame)
      · intro other hother
        have hfind : ∃ stats ∈ table, stats.toolName = other.toolName := by
          rcases List.mem_append.mp hother with hother | hother
          · exact htabled.complete other hother
          · rw [List.mem_singleton.mp hother]
            exact ⟨found, leader?_mem hleader, leader?_key hleader⟩
        rcases hfind with ⟨stats, hstats, hname⟩
        refine ⟨_, List.mem_map_of_mem hstats, ?_⟩
        split_ifs
        · exact hname
        · exact hname

theorem tabled_foldl (tools : List NativeSuitCodeToolUse) :
    Tabled tools (tools.foldl countToolUse []) := by
  induction tools using List.reverseRecOn with
  | nil => exact ⟨by simp, by simp⟩
  | append_singleton tools tool ih =>
      rw [List.foldl_append]
      exact tabled_countToolUse ih

theorem toolUsageOf_ok_iff {tools : List NativeSuitCodeToolUse} (hdescribes : Describes tools stats) :
    (∃ use, toolUsageOf stats = .ok use) ↔
      (firstSightings tools stats.toolName ≠ [] → lastSightings tools stats.toolName ≠ [] →
        ∃ first ∈ firstSightings tools stats.toolName,
          ∃ last ∈ lastSightings tools stats.toolName, first ≤ last) := by
  rcases hdescribes with ⟨hnamed, hcounted, hfirst, hlast⟩
  have hcreate : (∃ use, toolUsageOf stats = .ok use) ↔
      seenOutOfOrder stats.firstSeenAt stats.lastSeenAt = false := by
    unfold toolUsageOf NativeSuitCodeToolUse.create
    rw [dif_neg (by simp [hnamed]), dif_neg (by omega)]
    by_cases hseen : seenOutOfOrder stats.firstSeenAt stats.lastSeenAt = true
    · simp [hseen]
    · simp [hseen]
  rw [hcreate]
  cases hearliest : stats.firstSeenAt with
  | none => simp [seenOutOfOrder, hfirst.none_iff.mp hearliest]
  | some first =>
      cases hlatest : stats.lastSeenAt with
      | none => simp [seenOutOfOrder, hlast.none_iff.mp hlatest]
      | some last =>
          have hmem := hfirst.mem first hearliest
          have hmem' := hlast.mem last hlatest
          simp only [seenOutOfOrder, Option.any_some, decide_eq_false_iff_not, not_lt]
          constructor
          · intro hle _ _
            exact ⟨first, hmem, last, hmem', hle⟩
          · intro hsome
            rcases hsome (List.ne_nil_of_mem hmem) (List.ne_nil_of_mem hmem') with
              ⟨other, hother, later, hlater, hle⟩
            have hleast := hfirst.unbeaten first hearliest other hother
            have hmost := hlast.unbeaten last hlatest later hlater
            simp only [decide_eq_false_iff_not] at hleast hmost
            omega

/-! ## The summary -/

theorem addBreakdown_toolCounts (breakdown : TranscriptTokenBreakdown) (totals : SummaryTotals) :
    (addBreakdown breakdown totals).toolCounts = totals.toolCounts := rfl

theorem addSession_toolCounts (totals : SummaryTotals) (session : NativeSessionAnalytics) :
    (addSession totals session).toolCounts =
      session.suitcodeTools.foldl countToolUse totals.toolCounts := by
  unfold addSession
  cases session.tokenBreakdown with
  | none => rfl
  | some breakdown => exact addBreakdown_toolCounts _ _

theorem toolCounts_foldl (sessions : List NativeSessionAnalytics) (totals : SummaryTotals) :
    (sessions.foldl addSession totals).toolCounts =
      (sessions.flatMap NativeSessionAnalytics.suitcodeTools).foldl countToolUse
        totals.toolCounts := by
  induction sessions generalizing totals with
  | nil => rfl
  | cons session sessions ih =>
      rw [List.foldl_cons, ih, addSession_toolCounts, List.flatMap_cons, List.foldl_append]

theorem averageOf_nonneg (values : List ℕ) : (averageOf values).any (· < 0) = false := by
  unfold averageOf
  split_ifs
  · rfl
  · simp only [Option.any_some, decide_eq_false_iff_not, not_lt]
    positivity

theorem averageOf_pos (values : List ℕ+) :
    (averageOf (values.map PNat.val)).any (· ≤ 0) = false := by
  unfold averageOf
  cases values with
  | nil => rfl
  | cons value values =>
      have hpos := value.pos
      have hsum : 0 < ((value :: values).map PNat.val).sum := by
        rw [List.map_cons, List.sum_cons]
        exact Nat.add_pos_left hpos _
      have hlength : 0 < ((value :: values).map PNat.val).length := by simp
      rw [if_neg (by simp)]
      simp only [Option.any_some, decide_eq_false_iff_not, not_le]
      positivity

theorem NativeRepositoryAnalyticsSummary.create_ok {summary : NativeRepositoryAnalyticsSummary}
    (hchecks : ∀ check ∈ summary.checks, check.1 = false) :
    summary.create =
      .ok { summary with latestSessionId := summary.latestSessionId.map strip } :=
  validated_eq_ok.mpr ⟨rfl, hchecks⟩

theorem latestSession_id_nonblank (sessions : List NativeSessionAnalytics) :
    ((latestSession sessions).map fun session => session.sessionId.val).any isBlank = false := by
  cases latestSession sessions with
  | none => rfl
  | some session => exact session.sessionId.property

theorem tabled_totals (sessions : List NativeSessionAnalytics) :
    Tabled (sessions.flatMap NativeSessionAnalytics.suitcodeTools)
      (sessions.foldl addSession {}).toolCounts := by
  have hcounts : (sessions.foldl addSession {}).toolCounts =
      (sessions.flatMap NativeSessionAnalytics.suitcodeTools).foldl countToolUse [] :=
    toolCounts_foldl sessions {}
  rw [hcounts]
  exact tabled_foldl _

section BuildSummary

variable {sessions : List NativeSessionAnalytics} {repositoryRoot : Option String} {skipped : ℕ}
  {notes : List String}

theorem sightingsInOrder_of_buildSummary {summary : NativeRepositoryAnalyticsSummary}
    (hsummary : buildSummary sessions repositoryRoot skipped notes = .ok summary) :
    SightingsInOrder (sessions.flatMap NativeSessionAnalytics.suitcodeTools) := by
  have htabled := tabled_totals sessions
  intro toolName hfirst hlast
  rcases bind_eq_ok.mp hsummary with ⟨toolUsage, husage, -⟩
  rcases List.exists_mem_of_ne_nil _ hfirst with ⟨seen, hseen⟩
  rcases List.mem_filterMap.mp hseen with ⟨tool, htool, -⟩
  rw [List.mem_filter, decide_eq_true_eq] at htool
  rcases htabled.complete tool htool.1 with ⟨stats, hstats, hname⟩
  rcases exists_output_of_mem husage (mem_sortedBy.mpr hstats) with ⟨use, -, huse⟩
  have horder := (toolUsageOf_ok_iff (htabled.described stats hstats)).mp ⟨use, huse⟩
  rw [hname, htool.2] at horder
  exact horder hfirst hlast

theorem exists_buildSummary
    (horder : SightingsInOrder (sessions.flatMap NativeSessionAnalytics.suitcodeTools)) :
    ∃ summary, buildSummary sessions repositoryRoot skipped notes = .ok summary ∧
      summary.sessionCount = sessions.length ∧ summary.skippedArtifacts = skipped := by
  have htabled := tabled_totals sessions
  have husage : ∃ toolUsage, (sortedBy toolUsageSortKey
      (sessions.foldl addSession {}).toolCounts).mapM toolUsageOf = .ok toolUsage ∧
        List.Forall₂ (fun _ _ => True) (sortedBy toolUsageSortKey
          (sessions.foldl addSession {}).toolCounts) toolUsage := by
    apply exists_outputs
    intro stats hstats
    rcases (toolUsageOf_ok_iff (htabled.described stats (mem_sortedBy.mp hstats))).mpr
      (horder stats.toolName) with ⟨use, huse⟩
    exact ⟨use, huse, trivial⟩
  rcases husage with ⟨toolUsage, husage, -⟩
  unfold buildSummary
  dsimp only
  rw [husage, ok_bind, NativeRepositoryAnalyticsSummary.create_ok]
  · exact ⟨_, rfl, rfl, rfl⟩
  · have husing : sessions.countP usesSuitcode ≤ sessions.length := List.countP_le_length
    simp only [NativeRepositoryAnalyticsSummary.checks, List.forall_mem_cons, List.not_mem_nil,
      decide_eq_false_iff_not, not_lt, ne_eq, not_not, false_implies, implies_true, and_true]
    refine ⟨latestSession_id_nonblank sessions, by omega, List.countP_le_length,
      List.countP_le_length, List.countP_le_length, List.countP_le_length, averageOf_pos _,
      averageOf_pos _, ?_, averageOf_nonneg _, averageOf_nonneg _⟩
    split_ifs
    · simp only [Option.any_some, decide_eq_false_iff_not, not_lt]
      positivity
    · rfl

end BuildSummary

/-! ## Scans -/

namespace NativeAnalyticsService

variable {service : NativeAnalyticsService} {repositoryRoot root sessionId : Option String}
  {cache later : ScanCache} {paths : List String} {path : String} {result : ScanResult}

def read (service : NativeAnalyticsService) (root : Option String) (path : String) :
    PyResult NativeSessionAnalytics := do
  let item ← service.parse path
  service.enrich item path root

def readable? (service : NativeAnalyticsService) (root : Option String) (path : String) :
    Option NativeSessionAnalytics :=
  (service.read root path).toOption

/-- The parser refuses the artifact with a `ValueError`, or every reader accepts it. -/
def StaysLocal (service : NativeAnalyticsService) (root : Option String) (path : String) : Prop :=
  (∃ message, service.parse path = raiseValueError message) ∨
    ∃ session, service.read root path = .ok session

theorem readable?_of_refused {message : String}
    (hrefused : service.parse path = raiseValueError message) :
    service.readable? root path = none := by
  unfold readable? read
  rw [hrefused]
  rfl

theorem readable?_of_read (hread : service.read root path = .ok session) :
    service.readable? root path = some session := by
  unfold readable?
  rw [hread]
  rfl

theorem scanArtifacts_cons_refused {message : String}
    (hrefused : service.parse path = raiseValueError message) :
    service.scanArtifacts root (path :: paths) = (do
      let (parsed, skipped, notes) ← service.scanArtifacts root paths
      pure (parsed, skipped + 1, message :: notes)) := by
  rw [scanArtifacts, hrefused]
  rfl

theorem scanArtifacts_cons_read (hread : service.read root path = .ok session) :
    service.scanArtifacts root (path :: paths) = (do
      let (parsed, skipped, notes) ← service.scanArtifacts root paths
      pure (session :: parsed, skipped, notes)) := by
  rcases bind_eq_ok.mp hread with ⟨item, hitem, henrich⟩
  rw [scanArtifacts, hitem]
  dsimp only
  rw [henrich, ok_bind]

theorem staysLocal_of_scan (hscan : service.scanArtifacts root (path :: paths) = .ok result) :
    service.StaysLocal root path := by
  rw [scanArtifacts] at hscan
  cases hparse : service.parse path with
  | ok item =>
      simp only [hparse] at hscan
      rcases bind_eq_ok.mp hscan with ⟨session, henrich, -⟩
      exact Or.inr ⟨session, bind_eq_ok.mpr ⟨item, hparse, henrich⟩⟩
  | error exception =>
      cases exception with
      | valueError message => exact Or.inl ⟨message, hparse⟩
      | _ => simp [hparse] at hscan

theorem scanArtifacts_ok (hscan : service.scanArtifacts root paths = .ok result) :
    (∀ path ∈ paths, service.StaysLocal root path) ∧
      result.1 = paths.filterMap (service.readable? root) ∧
      result.1.length + result.2.1 = paths.length := by
  induction paths generalizing result with
  | nil =>
      cases hscan
      exact ⟨by simp, rfl, rfl⟩
  | cons path paths ih =>
      have hlocal := staysLocal_of_scan hscan
      rcases hlocal with ⟨message, hrefused⟩ | ⟨session, hread⟩
      · rw [scanArtifacts_cons_refused hrefused] at hscan
        rcases bind_eq_ok.mp hscan with ⟨⟨parsed, skipped, notes⟩, hrest, hresult⟩
        cases hresult
        rcases ih hrest with ⟨hall, hparsed, hcount⟩
        refine ⟨?_, ?_, ?_⟩
        · intro other hother
          rcases List.mem_cons.mp hother with rfl | hother
          · exact Or.inl ⟨message, hrefused⟩
          · exact hall other hother
        · rw [List.filterMap_cons, readable?_of_refused hrefused]
          exact hparsed
        · simp only [List.length_cons]
          dsimp only at hcount
          omega
      · rw [scanArtifacts_cons_read hread] at hscan
        rcases bind_eq_ok.mp hscan with ⟨⟨parsed, skipped, notes⟩, hrest, hresult⟩
        cases hresult
        rcases ih hrest with ⟨hall, hparsed, hcount⟩
        refine ⟨?_, ?_, ?_⟩
        · intro other hother
          rcases List.mem_cons.mp hother with rfl | hother
          · exact Or.inr ⟨session, hread⟩
          · exact hall other hother
        · rw [List.filterMap_cons, readable?_of_read hread]
          exact congrArg (session :: ·) hparsed
        · simp only [List.length_cons]
          dsimp only at hcount
          omega

theorem exists_scanArtifacts (hlocal : ∀ path ∈ paths, service.StaysLocal root path) :
    ∃ result, service.scanArtifacts root paths = .ok result := by
  induction paths with
  | nil => exact ⟨_, rfl⟩
  | cons path paths ih =>
      rcases ih fun other hother => hlocal other (List.mem_cons_of_mem _ hother) with
        ⟨⟨parsed, skipped, notes⟩, hrest⟩
      rcases hlocal path List.mem_cons_self with ⟨message, hrefused⟩ | ⟨session, hread⟩
      · rw [scanArtifacts_cons_refused hrefused, hrest]
        exact ⟨_, rfl⟩
      · rw [scanArtifacts_cons_read hread, hrest]
        exact ⟨_, rfl⟩

/-! ### The cache -/

/-- The caches a service comes to from the empty one. -/
inductive Reached (service : NativeAnalyticsService) : ScanCache → Prop where
  | start : Reached service []
  | scan {cache later : ScanCache} {root sessionId : Option String} {result : ScanResult}
      (hcache : Reached service cache)
      (hscan : service.scanSessions cache root sessionId = .ok (result, later)) :
      Reached service later

def Faithful (service : NativeAnalyticsService) (cache : ScanCache) : Prop :=
  ∀ entry ∈ cache, ∃ paths, service.listSessions entry.1.1 entry.1.2 = .ok paths ∧
    service.scanArtifacts entry.1.1 paths = .ok entry.2

theorem scanSessions_ok (hcache : service.Faithful cache)
    (hscan : service.scanSessions cache root sessionId = .ok (result, later)) :
    (∃ paths, service.listSessions root sessionId = .ok paths ∧
      service.scanArtifacts root paths = .ok result) ∧ service.Faithful later := by
  unfold scanSessions at hscan
  cases hleader : leader? Prod.fst cache (root, sessionId) with
  | some cached =>
      simp only [hleader, Except.ok.injEq, Prod.mk.injEq] at hscan
      rcases hscan with ⟨rfl, rfl⟩
      have hentry := hcache cached (leader?_mem hleader)
      rw [leader?_key hleader] at hentry
      exact ⟨hentry, hcache⟩
  | none =>
      simp only [hleader] at hscan
      rcases bind_eq_ok.mp hscan with ⟨paths, hpaths, hscan⟩
      rcases bind_eq_ok.mp hscan with ⟨found, hfound, hresult⟩
      cases hresult
      refine ⟨⟨paths, hpaths, hfound⟩, ?_⟩
      intro entry hentry
      rcases List.mem_append.mp hentry with hentry | hentry
      · exact hcache entry hentry
      · rw [List.mem_singleton.mp hentry]
        exact ⟨paths, hpaths, hfound⟩

theorem Reached.faithful (hcache : service.Reached cache) : service.Faithful cache := by
  induction hcache with
  | start => simp [Faithful]
  | scan _ hscan ih => exact (scanSessions_ok ih hscan).2

theorem exists_scanSessions (hcache : service.Reached cache)
    (hlisted : service.listSessions root sessionId = .ok paths)
    (hlocal : ∀ path ∈ paths, service.StaysLocal root path) :
    ∃ result later, service.scanSessions cache root sessionId = .ok (result, later) ∧
      result.1 = paths.filterMap (service.readable? root) ∧
      result.1.length + result.2.1 = paths.length := by
  rcases exists_scanArtifacts hlocal with ⟨result, hresult⟩
  have hfound : ∃ found later, service.scanSessions cache root sessionId = .ok (found, later) := by
    unfold scanSessions
    cases leader? Prod.fst cache (root, sessionId) with
    | some cached => exact ⟨_, _, rfl⟩
    | none =>
        dsimp only
        rw [hlisted, ok_bind, hresult]
        exact ⟨_, _, rfl⟩
  rcases hfound with ⟨found, later, hscan⟩
  rcases (scanSessions_ok hcache.faithful hscan).1 with ⟨others, hothers, hartifacts⟩
  rw [hlisted] at hothers
  cases hothers
  exact ⟨found, later, hscan, (scanArtifacts_ok hartifacts).2⟩

/-! ### One transcript among others -/

def listing (service : NativeAnalyticsService) (artifacts : List String) :
    NativeAnalyticsService :=
  { service with listSessions := fun _ _ => .ok artifacts }

/-- Neither query raises, every artifact is counted as a session or as skipped, and what an
artifact gives when it is the only one it gives among the others. -/
structure Isolated (service : NativeAnalyticsService) (cache : ScanCache)
    (repositoryRoot : Option String) (artifacts : List String) : Prop where
  summary : (service.repositorySummary cache repositoryRoot none).Yields fun answer =>
    answer.1.sessionCount + answer.1.skippedArtifacts = artifacts.length
  sessions : (service.sessionAnalytics cache repositoryRoot none none).Yields fun answer =>
    ∀ path ∈ artifacts, ∀ session,
      (((service.listing [path]).sessionAnalytics [] repositoryRoot none none).Yields
        fun alone => alone.1 = [session]) → session ∈ answer.1

theorem read_of_alone (hroot : service.normalizedRoot repositoryRoot = .ok root)
    (halone : ((service.listing [path]).sessionAnalytics [] repositoryRoot none none).Yields
      fun alone => alone.1 = [session]) :
    service.readable? root path = some session := by
  rcases halone.exists_ok with ⟨⟨sessions, later⟩, hsessions, hsame⟩
  rcases bind_eq_ok.mp hsessions with ⟨found, hfound, hscan⟩
  rw [show (service.listing [path]).normalizedRoot repositoryRoot = .ok root from hroot] at hfound
  cases hfound
  rcases bind_eq_ok.mp hscan with ⟨⟨result, rest⟩, hresult, hreturn⟩
  cases hreturn
  rcases (scanSessions_ok (by simp [Faithful]) hresult).1 with ⟨paths, hpaths, hartifacts⟩
  cases hpaths
  rcases scanArtifacts_ok hartifacts with ⟨-, hparsed, -⟩
  have hresult : result.1 = [session] := hsame
  rw [hresult] at hparsed
  have hone : (service.listing [path]).readable? root path = service.readable? root path := rfl
  cases hread : service.readable? root path with
  | none => simp [hone, hread] at hparsed
  | some found =>
      simp only [List.filterMap_cons, hone, hread, List.filterMap_nil, List.cons.injEq,
        and_true] at hparsed
      rw [hparsed]

end NativeAnalyticsService

/-- The transcripts of a repository are isolated from one another exactly when the parser
refuses each with a `ValueError` or all readers accept it, and the sightings of every tool
are in order over the accepted ones. -/
theorem isolated_iff {service : NativeAnalyticsService} {cache : ScanCache}
    {repositoryRoot root : Option String} {artifacts : List String}
    (hcache : service.Reached cache)
    (hroot : service.normalizedRoot repositoryRoot = .ok root)
    (hlisted : service.listSessions root none = .ok artifacts) :
    service.Isolated cache repositoryRoot artifacts ↔
      (∀ path ∈ artifacts, service.StaysLocal root path) ∧
        SightingsInOrder ((artifacts.filterMap (service.readable? root)).flatMap
          NativeSessionAnalytics.suitcodeTools) := by
  constructor
  · rintro ⟨hsummary, -⟩
    rcases hsummary.exists_ok with ⟨⟨summary, later⟩, hanswer, -⟩
    unfold NativeAnalyticsService.repositorySummary at hanswer
    rw [hroot, ok_bind] at hanswer
    rcases bind_eq_ok.mp hanswer with ⟨⟨⟨sessions, skipped, notes⟩, rest⟩, hscan, hbuild⟩
    rcases (NativeAnalyticsService.scanSessions_ok hcache.faithful hscan).1 with
      ⟨paths, hpaths, hartifacts⟩
    rw [hlisted] at hpaths
    cases hpaths
    rcases NativeAnalyticsService.scanArtifacts_ok hartifacts with ⟨hlocal, hparsed, -⟩
    rcases bind_eq_ok.mp hbuild with ⟨built, hbuilt, -⟩
    refine ⟨hlocal, ?_⟩
    dsimp only at hparsed hbuilt
    rw [← hparsed]
    exact sightingsInOrder_of_buildSummary hbuilt
  · rintro ⟨hlocal, horder⟩
    rcases NativeAnalyticsService.exists_scanSessions hcache hlisted hlocal with
      ⟨⟨sessions, skipped, notes⟩, later, hscan, hparsed, hcount⟩
    dsimp only at hparsed hcount
    rw [← hparsed] at horder
    have hbuild : ∃ summary, buildSummary sessions root skipped notes = .ok summary ∧
        summary.sessionCount = sessions.length ∧ summary.skippedArtifacts = skipped :=
      exists_buildSummary horder
    rcases hbuild with ⟨summary, hsummary, hsessions, hskipped⟩
    constructor
    · unfold NativeAnalyticsService.repositorySummary
      rw [hroot, ok_bind, hscan, ok_bind]
      dsimp only [NativeAnalyticsService.filtered]
      rw [hsummary, ok_bind]
      apply PyResult.Yields.ok
      rw [hsessions, hskipped, hcount]
    · unfold NativeAnalyticsService.sessionAnalytics
      rw [hroot, ok_bind, hscan, ok_bind]
      apply PyResult.Yields.ok
      intro path hpath session halone
      have hread := NativeAnalyticsService.read_of_alone hroot halone
      dsimp only [NativeAnalyticsService.filtered]
      rw [hparsed]
      exact List.mem_filterMap.mpr ⟨path, hpath, hread⟩

/-! ## A transcript the capture builder refuses -/

def codexService (environment : RolloutEnvironment) (artifacts : List String) :
    NativeAnalyticsService where
  resolvePath := environment.resolvePath
  listSessions _ _ := .ok artifacts
  parse := CodexSessionParser.parse environment
  correlateSession := none
  buildCapture := some (CodexTranscriptCapture.build environment)
  estimateSession := none
  usagePolicy := none

theorem isolated_iff_oneCall :
    (codexService (oneCallEnvironment "mcp__suitcode__describe_files")
        ["/rollout.jsonl"]).Isolated [] none ["/rollout.jsonl"] ↔
      (∀ path ∈ ["/rollout.jsonl"],
        (codexService (oneCallEnvironment "mcp__suitcode__describe_files")
          ["/rollout.jsonl"]).StaysLocal none path) ∧
        SightingsInOrder ((["/rollout.jsonl"].filterMap
          ((codexService (oneCallEnvironment "mcp__suitcode__describe_files")
            ["/rollout.jsonl"]).readable? none)).flatMap NativeSessionAnalytics.suitcodeTools) :=
  isolated_iff .start rfl rfl

/-- A rollout with a call of `suitcode.describe_files` is accepted by the parser and
refused by the capture builder; the summary raises. -/
theorem not_isolated_short_name :
    ¬ (codexService (oneCallEnvironment "suitcode.describe_files")
        ["/rollout.jsonl"]).Isolated [] none ["/rollout.jsonl"] := by
  rintro ⟨hsummary, -⟩
  have hraises : (codexService (oneCallEnvironment "suitcode.describe_files")
      ["/rollout.jsonl"]).scanArtifacts none ["/rollout.jsonl"] =
        raiseValueError "is_suitcode=True requires is_mcp=True" := by
    decide +kernel
  rcases hsummary.exists_ok with ⟨answer, hanswer, -⟩
  rcases bind_eq_ok.mp hanswer with ⟨root, hroot, hanswer⟩
  cases hroot
  rcases bind_eq_ok.mp hanswer with ⟨⟨result, later⟩, hscan, -⟩
  rcases (NativeAnalyticsService.scanSessions_ok (by simp [NativeAnalyticsService.Faithful])
    hscan).1 with ⟨paths, hpaths, hartifacts⟩
  cases hpaths
  rw [hraises] at hartifacts
  exact absurd hartifacts raiseValueError_ne_ok

end SuitCode
