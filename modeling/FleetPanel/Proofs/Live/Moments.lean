/-
This file says exactly when a reload installs a snapshot of one moment: unless the nodes are written
after it has read them, and then the instances before it has read those.
-/

import FleetPanel.Proofs.Api.Inquiry
import FleetPanel.Proofs.Live.Overlap

namespace FleetPanel.Live

open Exports Fleet

theorem versionsKept {which : Which} {actions : List Action} {edition : Nat} {entry : Entry}
    (version : (versions which actions)[edition]? = some entry) (more : List Action) :
    (versions which (actions ++ more))[edition]? = some entry := by
  induction more using List.reverseRecOn with
  | nil => rwa [List.append_nil]
  | append_singleton before action inductionHypothesis =>
      rw [← List.append_assoc]
      exact versionKept inductionHypothesis action

namespace World

variable {first world next last moment : World} {action : Action} {actions : List Action}
  {edition : Edition}

/-- A run passes the worlds that its beginnings lead to, the first and the last one included. -/
def Passes (first : World) (actions : List Action) (moment : World) : Prop :=
  ∃ done rest, actions = done ++ rest ∧ first.run? done = some moment

theorem stepBehind (ran : first.run? actions = some world)
    (moved : world.step? action = some next) : first.run? (actions ++ [action]) = some next :=
  runThen ran (by simpa [run?] using moved)

/-- A longer run passes what its beginning passes and what is passed from there on. -/
theorem passesOfAppend {more : List Action} (ran : first.run? actions = some world)
    (passes : first.Passes (actions ++ more) moment) :
    first.Passes actions moment ∨ world.Passes more moment := by
  obtain ⟨done, rest, split, reached⟩ := passes
  rcases List.append_eq_append_iff.mp split with ⟨behind, rfl, rfl⟩ | ⟨between, rfl, rfl⟩
  · rw [runAppend, ran] at reached
    exact .inr ⟨behind, rest, rfl, reached⟩
  · exact .inl ⟨done, between, rfl, reached⟩

/-- A step writes at most one file, once. -/
theorem writesOfStep (moved : world.step? action = some next) :
    next.newest = world.newest ∨
      next.newest = ⟨world.newest.nodes + 1, world.newest.instances⟩ ∨
      next.newest = ⟨world.newest.nodes, world.newest.instances + 1⟩ := by
  have same : next.newest = ⟨(next.file .nodes).writes, (next.file .instances).writes⟩ := rfl
  rw [same, fileOfStep moved, fileOfStep moved]
  cases action with
  | write which entry =>
      cases which with
      | nodes => exact .inr (.inl rfl)
      | instances => exact .inr (.inr rfl)
  | _ => exact .inl rfl

theorem newestOfStep (moved : world.step? action = some next) : world.newest ≤ next.newest := by
  rcases writesOfStep moved with same | same | same <;> rw [same]
  · exact ⟨Nat.le_succ _, le_refl _⟩
  · exact ⟨le_refl _, Nat.le_succ _⟩

theorem newestOfRun (ran : first.run? actions = some last) : first.newest ≤ last.newest :=
  runKeepsState (fun world => first.newest ≤ world.newest) ran (le_refl _)
    fun _ _ _ grown moved => grown.trans (newestOfStep moved)

theorem newestOfPasses (ran : first.run? actions = some last)
    (passes : first.Passes actions moment) : moment.newest ≤ last.newest := by
  obtain ⟨done, rest, rfl, reached⟩ := passes
  rw [runAppend, reached] at ran
  exact newestOfRun ran

/-- Of two worlds that a run passes one is no newer than the other. -/
theorem passesInOrder {other : World} (passes : first.Passes actions moment)
    (passesOther : first.Passes actions other) :
    moment.newest ≤ other.newest ∨ other.newest ≤ moment.newest := by
  have grows : ∀ {early late : List Action} {before after : World}, early <+: late →
      first.run? early = some before → first.run? late = some after →
      before.newest ≤ after.newest := by
    rintro early _ before after ⟨rest, rfl⟩ reached ran
    rw [runAppend, reached] at ran
    exact newestOfRun ran
  obtain ⟨done, rest, rfl, reached⟩ := passes
  obtain ⟨otherDone, otherRest, split, otherReached⟩ := passesOther
  rcases List.prefix_or_prefix_of_prefix (List.prefix_append done rest)
    (split ▸ List.prefix_append otherDone otherRest) with before | behind
  · exact .inl (grows before reached otherReached)
  · exact .inr (grows behind otherReached reached)

/-- At some moment of a run the nodes are newer than an edition, and the instances are older. -/
def Tears (first : World) (actions : List Action) (edition : Edition) : Prop :=
  ∃ moment, first.Passes actions moment ∧ edition.nodes < moment.newest.nodes ∧
    moment.newest.instances < edition.instances

/-- When the nodes were older than an edition, the instances were not newer. -/
def NodesFirst (first : World) (actions : List Action) (edition : Edition) : Prop :=
  ∀ moment, first.Passes actions moment → moment.newest.nodes < edition.nodes →
    moment.newest.instances ≤ edition.instances

/-- A step from below an edition meets it, stays below it or leaves on one side of it. -/
theorem sidesOfStep (moved : world.step? action = some next) (below : world.newest ≤ edition)
    (apart : world.newest ≠ edition) :
    next.newest = edition ∨
      (edition.nodes < next.newest.nodes ∧ next.newest.instances < edition.instances) ∨
      (next.newest.nodes < edition.nodes ∧ edition.instances < next.newest.instances) ∨
      (next.newest ≤ edition ∧ next.newest ≠ edition) := by
  obtain ⟨nodes, instances⟩ := edition
  obtain ⟨nodesBelow, instancesBelow⟩ : world.newest.nodes ≤ nodes ∧
    world.newest.instances ≤ instances := below
  change _ ∨ _ ∨ _ ∨ ((next.newest.nodes ≤ nodes ∧ next.newest.instances ≤ instances) ∧ _)
  rcases writesOfStep moved with same | same | same <;> rw [same] <;>
    generalize world.newest = newest at * <;> obtain ⟨nodesNow, instancesNow⟩ := newest <;>
    simp only [Edition.mk.injEq, ne_eq] at * <;> omega

/-- A run from below an edition to above it meets it or goes around it on one side. -/
theorem meetsOrGoesAround (ran : first.run? actions = some last) (above : first.newest ≤ edition)
    (below : edition ≤ last.newest) :
    (∃ moment, first.Passes actions moment ∧ moment.newest = edition) ∨
      first.Tears actions edition ∨
      ∃ moment, first.Passes actions moment ∧ moment.newest.nodes < edition.nodes ∧
        edition.instances < moment.newest.instances := by
  by_contra around
  obtain ⟨unmet, untorn, unpassed⟩ := by simpa only [not_or] using around
  -- Each step writes one file once, so the run cannot come above the edition without a trace.
  have kept := runKeeps (fun done world => first.run? done = some world ∧
    (done <+: actions → world.newest ≤ edition ∧ world.newest ≠ edition)) ran ?_ ?_
  · obtain ⟨staysBelow, apart⟩ := kept.2 List.prefix_rfl
    exact apart (le_antisymm staysBelow below)
  · exact ⟨rfl, fun _ => ⟨above, fun met => unmet ⟨first, ⟨[], actions, rfl, rfl⟩, met⟩⟩⟩
  · rintro done action world next _ ⟨reached, held⟩ moved
    have reachedNext := stepBehind reached moved
    refine ⟨reachedNext, fun ⟨rest, split⟩ => ?_⟩
    have passes : first.Passes actions next := ⟨done ++ [action], rest, split.symm, reachedNext⟩
    obtain ⟨staysBelow, apart⟩ := held ⟨[action] ++ rest, by rw [← split, List.append_assoc]⟩
    rcases sidesOfStep moved staysBelow apart with met | torn | passed | stays
    · exact absurd ⟨next, passes, met⟩ unmet
    · exact absurd ⟨next, passes, torn⟩ untorn
    · exact absurd ⟨next, passes, passed⟩ unpassed
    · exact stays

/-- Where the nodes come first, a run from below an edition to above it meets it unless it tears. -/
theorem meetsUnlessTears (ran : first.run? actions = some last) (above : first.newest ≤ edition)
    (below : edition ≤ last.newest) (ordered : first.NodesFirst actions edition) :
    (∃ moment, first.Passes actions moment ∧ moment.newest = edition) ↔
      ¬ first.Tears actions edition := by
  constructor
  · rintro ⟨moment, passes, rfl⟩ ⟨other, passesOther, newer, older⟩
    rcases passesInOrder passes passesOther with before | behind
    · exact absurd before.2 (Nat.not_le.mpr older)
    · exact absurd behind.1 (Nat.not_le.mpr newer)
  · intro whole
    rcases meetsOrGoesAround ran above below with met | torn | ⟨moment, passes, older, newer⟩
    · exact met
    · exact absurd torn whole
    · exact absurd (ordered moment passes older) (Nat.not_le.mpr newer)

end World

/-- What a reload has read was read from the nodes first. -/
def Reload.IsOrdered (first : World) (actions : List Action) : Reload → Prop
  | instancesFound _ edition _ other => first.NodesFirst actions ⟨edition, other⟩
  | loaded _ edition => first.NodesFirst actions edition
  | _ => True

namespace World

variable {first world next rest last : World} {index : Nat} {before after reload : Reload}
  {action : Action} {actions : List Action} {edition : Edition}

/-- Worlds that are no older than an edition in their nodes do not come before it. -/
theorem nodesFirstOfAppend (ran : first.run? actions = some world)
    (ordered : first.NodesFirst actions edition) (reached : edition.nodes ≤ world.newest.nodes)
    (more : List Action) : first.NodesFirst (actions ++ more) edition := by
  intro moment passes older
  rcases passesOfAppend ran passes with passes | ⟨done, rest, rfl, ranMore⟩
  · exact ordered moment passes older
  · exact absurd older (Nat.not_lt.mpr (reached.trans (newestOfRun ranMore).1))

theorem isOrderedOfAppend {least : Edition} (ran : first.run? actions = some world)
    (ordered : reload.IsOrdered first actions) (between : reload.IsBetween least world.newest)
    (more : List Action) : reload.IsOrdered first (actions ++ more) := by
  cases reload with
  | instancesFound => exact nodesFirstOfAppend ran ordered between.2.1 more
  | loaded => exact nodesFirstOfAppend ran ordered between.2.1 more
  | _ => trivial

theorem isOrderedOfAdvance (ran : first.run? actions = some world)
    (advance : Advance world index before rest after) (ordered : before.IsOrdered first actions) :
    after.IsOrdered first actions := by
  have behind : ∀ nodes, first.NodesFirst actions ⟨nodes, world.instances.writes⟩ :=
    fun _ _ passes _ => (newestOfPasses ran passes).2
  cases advance with
  | instancesFound => exact behind _
  | @instancesRead nodes edition other found =>
      cases found with
      | true => exact behind _
      | false => exact ordered
  | _ => trivial

/-- What the reload at `index` has read was read since the first world, the nodes first. -/
def ReadsSince (first : World) (index : Nat) (actions : List Action) (world : World) : Prop :=
  ∀ reload, world.reloads[index]? = some reload →
    reload.IsBetween first.newest world.newest ∧ reload.IsOrdered first actions

theorem readsSinceOfStep (ran : first.run? actions = some world)
    (reads : ReadsSince first index actions world) (moved : world.step? action = some next) :
    ReadsSince first index (actions ++ [action]) next := by
  have grown : world.newest ≤ next.newest := newestOfStep moved
  -- What a reload has read is settled before the step, so the step only adds a newer world.
  have settled : ∀ reload : Reload, reload.IsBetween first.newest world.newest →
      reload.IsOrdered first actions → reload.IsBetween first.newest next.newest ∧
        reload.IsOrdered first (actions ++ [action]) :=
    fun reload between ordered => ⟨Reload.isBetweenMono between grown,
      isOrderedOfAppend ran ordered between [action]⟩
  have unmoved : ∀ reload, world.reloads[index]? = some reload →
      reload.IsBetween first.newest next.newest ∧ reload.IsOrdered first (actions ++ [action]) :=
    fun reload stood => settled reload (reads reload stood).1 (reads reload stood).2
  intro reload stands
  cases effectOfStep moved with
  | @written which => cases which <;> exact unmoved reload stands
  | begun =>
      rcases placeOfBegin stands with rfl | stands
      · refine ⟨firstReloadIsBetween world _ _, ?_⟩
        unfold firstReload
        split <;> trivial
      · exact unmoved reload stands
  | @advanced mover before after rest stood advance =>
      obtain ⟨rfl, rfl⟩ | ⟨_, stands⟩ := placeOfAdvance stood advance stands
      · obtain ⟨between, ordered⟩ := reads before stood
        exact settled _ (isBetweenOfAdvance (newestOfRun ran) advance between)
          (isOrderedOfAdvance ran advance ordered)
      · exact unmoved reload stands
  | watched => exact unmoved reload stands
  | connected => exact unmoved reload stands
  | told => exact unmoved reload stands
  | disconnected => exact unmoved reload stands

/-- What a reload that had read nothing has read by the end of a run was read during it. -/
theorem readsSinceOfRun (ran : first.run? actions = some last)
    (unread : (first.reloads[index]?).all Reload.isUnread = true) :
    ReadsSince first index actions last := by
  have kept := runKeeps (fun done world => first.run? done = some world ∧
    ReadsSince first index done world) ran ⟨rfl, fun reload stood => ?_⟩
    fun _ _ _ _ _ held moved => ⟨stepBehind held.1 moved, readsSinceOfStep held.1 held.2 moved⟩
  · exact kept.2
  · rw [stood] at unread
    cases reload with
    | waiting | locked => exact ⟨trivial, trivial⟩
    | _ => exact nomatch unread

/-- A snapshot is what the files load as at every moment at which they have its edition. -/
theorem loadsAtMoment {directory? : Option String} {ground : Ground} {earlier : List Action}
    {moment : World} {snapshot : Snapshot}
    (started : (start directory? ground).run? earlier = some first)
    (ran : first.run? actions = some last)
    (loaded : LoadedFrom last.path (earlier ++ actions) edition snapshot)
    (passes : first.Passes actions moment) (met : moment.newest = edition) :
    Snapshot.load moment.path moment.contents = .ok snapshot := by
  obtain ⟨done, rest, rfl, reached⟩ := passes
  have recorded := recordedOfRun (runThen started reached)
  have present : ∀ which, (versions which (earlier ++ (done ++ rest)))[
      (moment.file which).writes]? = some (moment.entry which) := by
    intro which
    rw [← List.append_assoc]
    exact versionsKept (recorded.present which) rest
  have path : moment.path = last.path :=
    (pathOfRun reached).trans (pathOfRun ran).symm
  obtain ⟨nodes, instances, nodesVersion, instancesVersion, loads⟩ := loaded
  subst met
  obtain rfl := Option.some.inj (nodesVersion.symm.trans (present .nodes))
  obtain rfl := Option.some.inj (instancesVersion.symm.trans (present .instances))
  rw [path]
  exact loads

theorem loadedOfInstall (installs : last.step? (.advance index) = some next)
    (swapped : next.reloads[index]? = some .swapped) :
    last.reloads[index]? = some (.loaded next.snapshot next.edition) := by
  obtain ⟨before, rest, after, stood, advance, rfl⟩ := advanceOfStep installs
  rw [reloadOfAdvance stood advance, if_pos rfl] at swapped
  obtain rfl := Option.some.inj swapped
  cases advance
  exact stood

section Install

variable {directory? : Option String} {ground : Ground} {earlier during later : List Action}
  {installed ended : World}

/-- The files pass the versions that an installed snapshot was read from unless the reload tears,
and in those versions they load as the snapshot. -/
theorem meetsOfInstall (started : (start directory? ground).run? earlier = some first)
    (begun : first.reloads[index]? = some .waiting) (ran : first.run? during = some last)
    (installs : last.step? (.advance index) = some installed)
    (swapped : installed.reloads[index]? = some .swapped)
    (ending : installed.run? later = some ended) :
    ((∃ moment, first.Passes (during ++ [.advance index] ++ later) moment ∧
        moment.newest = installed.edition) ↔
      ¬ first.Tears (during ++ [.advance index] ++ later) installed.edition) ∧
    ∀ moment, first.Passes (during ++ [.advance index] ++ later) moment →
      moment.newest = installed.edition →
        Snapshot.load moment.path moment.contents = .ok installed.snapshot := by
  have ranInstall := stepBehind ran installs
  have wholeRun := runThen ranInstall ending
  have unread : (first.reloads[index]?).all Reload.isUnread = true := by rw [begun]; rfl
  obtain ⟨between, ordered⟩ :=
    readsSinceOfRun ran unread _ (loadedOfInstall installs swapped)
  have orderedWhole : first.NodesFirst (during ++ [.advance index] ++ later) installed.edition := by
    rw [List.append_assoc]
    exact nodesFirstOfAppend ran ordered between.2.1 _
  have reached : installed.edition ≤ ended.newest :=
    between.2.trans ((newestOfStep installs).trans (newestOfRun ending))
  have loaded : LoadedFrom ended.path (earlier ++ (during ++ [.advance index] ++ later))
      installed.edition installed.snapshot := by
    obtain ⟨nodes, instances, nodesVersion, instancesVersion, loads⟩ :=
      (recordedOfRun (runThen started ranInstall)).snapshot
    rw [pathOfRun ending, ← List.append_assoc]
    exact ⟨nodes, instances, versionsKept nodesVersion later, versionsKept instancesVersion later,
      loads⟩
  exact ⟨meetsUnlessTears wholeRun between.1 reached orderedWhole,
    fun moment passes met => loadsAtMoment started wholeRun loaded passes met⟩

/-- A reload installs what both files loaded as at one moment between its begin and its end, unless
it tears: the nodes were written after it had read them, and then the instances before it had read
those. -/
theorem oneMomentUnlessTorn (started : (start directory? ground).run? earlier = some first)
    (begun : first.reloads[index]? = some .waiting) (ran : first.run? during = some last)
    (installs : last.step? (.advance index) = some installed)
    (swapped : installed.reloads[index]? = some .swapped)
    (ending : installed.run? later = some ended) :
    (∃ moment, first.Passes (during ++ [.advance index] ++ later) moment ∧
        moment.newest = installed.edition ∧
        Snapshot.load moment.path moment.contents = .ok installed.snapshot) ↔
      ¬ first.Tears (during ++ [.advance index] ++ later) installed.edition := by
  obtain ⟨meets, loads⟩ := meetsOfInstall started begun ran installs swapped ending
  rw [← meets]
  constructor
  · rintro ⟨moment, passes, met, _⟩
    exact ⟨moment, passes, met⟩
  · rintro ⟨moment, passes, met⟩
    exact ⟨moment, passes, met, loads moment passes met⟩

/-- Whatever their versions are, at one moment of a reload that does not tear the contents of both
files loaded as what it installs. -/
theorem contentsLoadedUnlessTorn (started : (start directory? ground).run? earlier = some first)
    (begun : first.reloads[index]? = some .waiting) (ran : first.run? during = some last)
    (installs : last.step? (.advance index) = some installed)
    (swapped : installed.reloads[index]? = some .swapped)
    (ending : installed.run? later = some ended)
    (whole : ¬ first.Tears (during ++ [.advance index] ++ later) installed.edition) :
    ∃ moment, first.Passes (during ++ [.advance index] ++ later) moment ∧
      Snapshot.load moment.path moment.contents = .ok installed.snapshot := by
  obtain ⟨meets, loads⟩ := meetsOfInstall started begun ran installs swapped ending
  obtain ⟨moment, passes, met⟩ := meets.mpr whole
  exact ⟨moment, passes, loads moment passes met⟩

end Install

/-- A reload takes the lock and reads the nodes, both files are rewritten, and the reload goes on to
read the instances. -/
def rewrittenBetween : List Action :=
  List.replicate 3 (.advance 0) ++
    [.write .nodes (.ofText "[]"), .write .instances Api.Inquiry.oneInstance] ++
    List.replicate 2 (.advance 0)

/-- All of that reload, with its swap, its notification and its end. -/
def wholeReload : List Action :=
  rewrittenBetween ++ [.advance 0] ++ List.replicate 2 (.advance 0)

/-- How many records the files load as, if they do. -/
def loadCounts (world : World) : Option Counts :=
  (Snapshot.load world.path world.contents).toOption.map Snapshot.counts

/-- That reload begins, swaps and ends, and shows one node and one instance, while the files never
load as such. -/
def showsUnseen (first : World) : Bool :=
  match first.reloads[0]? with
  | some Reload.waiting =>
      (first.run? rewrittenBetween).any fun last =>
        (last.step? (.advance 0)).any fun installed =>
          match installed.reloads[0]? with
          | some Reload.swapped =>
              (installed.run? (List.replicate 2 (.advance 0))).any fun ended =>
                ended.reloads.all Reload.isFinished && installed.snapshot.counts == (1, 1, 0) &&
                  (List.range (wholeReload.length + 1)).all fun count =>
                    (first.run? (wholeReload.take count)).all fun moment =>
                      moment.loadCounts != some (1, 1, 0)
          | _ => false
  | _ => false

/-- A node is shown beside an instance that was written only after the node was gone. -/
theorem tornByTwoWrites :
    ∃ first last installed ended,
      (start (some "d") .directory).run? [.write .nodes oneNode, .begin] = some first ∧
      first.reloads[0]? = some .waiting ∧ first.run? rewrittenBetween = some last ∧
      last.step? (.advance 0) = some installed ∧ installed.reloads[0]? = some .swapped ∧
      installed.run? (List.replicate 2 (.advance 0)) = some ended ∧
      (∀ reload ∈ ended.reloads, reload.isFinished = true) ∧
      installed.snapshot.counts = (1, 1, 0) ∧ first.Tears wholeReload installed.edition ∧
      ∀ moment, first.Passes wholeReload moment →
        Snapshot.load moment.path moment.contents ≠ .ok installed.snapshot := by
  obtain ⟨first, started, checked⟩ := runReaches (start (some "d") .directory)
    [.write .nodes oneNode, .begin] showsUnseen (by decide +kernel)
  unfold showsUnseen at checked
  split at checked
  · case h_1 begun =>
      obtain ⟨last, ran, checked⟩ := (Option.any_eq_true _ _).mp checked
      obtain ⟨installed, installs, checked⟩ := (Option.any_eq_true _ _).mp checked
      split at checked
      · case h_1 swapped =>
          obtain ⟨ended, ending, checked⟩ := (Option.any_eq_true _ _).mp checked
          simp only [Bool.and_eq_true, beq_iff_eq, List.all_eq_true, List.mem_range,
            Nat.lt_succ_iff] at checked
          obtain ⟨⟨finished, counts⟩, unseen⟩ := checked
          have unlike : ∀ moment, first.Passes wholeReload moment →
              Snapshot.load moment.path moment.contents ≠ .ok installed.snapshot := by
            rintro moment ⟨done, rest, split, reached⟩ loads
            have begins : done <+: wholeReload := ⟨rest, split.symm⟩
            have other := unseen done.length begins.length_le
            rw [← List.prefix_iff_eq_take.mp begins, reached] at other
            simp [loadCounts, loads, Except.toOption, counts] at other
          refine ⟨first, last, installed, ended, started, begun, ran, installs, swapped, ending,
            finished, counts, ?_, unlike⟩
          by_contra whole
          obtain ⟨moment, passes, _, loads⟩ :=
            (oneMomentUnlessTorn started begun ran installs swapped ending).mpr whole
          exact unlike moment passes loads
      · cases checked
  · cases checked

end World

end FleetPanel.Live
