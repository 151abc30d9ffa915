import Telematics.CommandLine.Host
import Telematics.CommandLine.Run
import Telematics.Proofs.Pipeline.Removal
import Telematics.Proofs.Store.Rows

/-!
# What thinning makes of a seed file

The command that thins the tracks of a seed file opens the store of its
settings, makes one pass over it and writes all that the store holds into the
file. Of the rows of the file only points can go, and only those that a track
drops (`Store.loses_of_thin`). But the store was opened with the providers of
the settings on top of the rows, and these are written too: one that was not
in the file is there afterwards, and one of its number that was is gone. The
file keeps its providers exactly if each that stands in the settings was in it
already, as it is.

The command is followed step by step (`CommandLine.run_bind_eq_ok`), and only
runs that come to their end are spoken of: a file that cannot be read or
written, and a lookback that is out of range, end it before. That the rows of
the file have numbers of their own is asked, since of two vehicles of one
number a store keeps the later and the file would lose the other by being read
alone.
-/

open scoped List

namespace Telematics

/-! ## Files -/

namespace Host

variable {h h' : Host} {path text : String}

/-- **What was written can be read**, on all but the device that takes
everything. That device takes every text and gives none back, so of a file
under its name nothing can be said. -/
theorem file?_of_write (hpath : path ≠ nullDevice)
    (hw : h.write path text = (true, h')) :
    h'.file? path = some text := by
  unfold write at hw
  rw [if_neg hpath] at hw
  split at hw
  · next name hname =>
    cases hw
    have hplace : place? path = some name :=
      (Option.filter_eq_some_iff.1 hname).1
    rw [file?, if_neg hpath, hplace]
    exact List.lookup_cons_self
  · cases hw

theorem clock_write (h : Host) (path text : String) :
    (h.write path text).2.clock = h.clock := by
  unfold write
  split
  · rfl
  · split <;> rfl

end Host

namespace Store

/-- Providers have no part in the tracks. -/
theorem tracks_addProviders (s : Store) (ps : List Provider)
    (vehicle : Option VehicleId) (start stop : Instant) :
    (s.addProviders ps).tracks vehicle start stop
      = s.tracks vehicle start stop := by
  unfold tracks pointsWithin
  rw [points_addProviders]

/-- **A store that nobody else works on** loses what the tracks of the span
drop. A command has the store to itself, so no deletion can fail and the pass
is the one of a store in memory. -/
theorem loses_of_thin {s s' : Store} {tolerance : Float} {lookback : Duration}
    {now : Instant} {report : ThinningReport}
    (h : s.thin tolerance lookback now = .ok (report, s')) :
    ∃ span, lookback.toSpan? = some span ∧
      s.Loses (fun id => ∃ t ∈ s.tracks none (now.minus span) now,
        id ∈ t.droppedIds tolerance)
        s' := by
  unfold thin at h
  rcases Thinner.run_cases tolerance lookback now .none s.backend with
    ⟨e, hrun⟩ | ⟨span, report', c, hspan, hrun, hloses⟩
  · rw [Task.result_of_runIn _ hrun] at h
    cases h
  · rw [Task.result_of_runIn _ hrun] at h
    cases h
    exact ⟨span, hspan, hloses.store.congr fun id => and_iff_left rfl⟩

end Store

namespace CommandLine

variable {α β : Type} {h h' : Host}

/-! ## Steps of a command -/

/-- **A command that comes to its end** comes to the end of each step. A
failure or a panic of an earlier step would be the end of the command, so what
it does can be followed step by step. -/
theorem run_bind_eq_ok {x : Work (StateM Host) α} {f : α → Work (StateM Host) β}
    {b : β} :
    (x >>= f).run h = (.ok b, h') ↔
      ∃ a h₁, x.run h = (.ok a, h₁) ∧ (f a).run h₁ = (.ok b, h') := by
  have hbind : (x >>= f).run h = (ExceptT.bindCont f (x.run h).1) (x.run h).2 :=
    rfl
  rw [hbind]
  rcases hx : x.run h with ⟨_ | a, h₁⟩
  · constructor
    · intro hrun
      cases hrun
    · rintro ⟨a, h₁, heq, -⟩
      cases heq
  · constructor
    · exact fun hrun => ⟨a, h₁, rfl, hrun⟩
    · rintro ⟨a, h₁, heq, hrun⟩
      cases heq
      exact hrun

/-- A question to the machine is answered by the machine. -/
theorem run_ask_eq_ok {x : StateM Host α} {a : α} :
    (Work.ask x).run h = (.ok a, h') ↔ x h = (a, h') := by
  have hask : (Work.ask x).run h = (.ok (x h).1, (x h).2) := rfl
  rw [hask]
  constructor
  · intro heq
    cases heq
    rfl
  · intro hx
    rw [hx]

/-- A result that is asked for is there, and the machine is as it was. -/
theorem run_require_eq_ok {x : Except Error α} {a : α} :
    (Work.require (m := StateM Host) x).run h = (.ok a, h')
      ↔ x = .ok a ∧ h = h' := by
  cases x with
  | error e =>
    constructor
    · intro hrun
      cases hrun
    · rintro ⟨heq, -⟩
      cases heq
  | ok b =>
    constructor
    · intro hrun
      cases hrun
      exact ⟨rfl, rfl⟩
    · rintro ⟨heq, rfl⟩
      cases heq
      rfl

/-- A command that has failed does not come to its end. -/
theorem not_run_throw_eq_ok {e : Failure} {a : α} :
    (throw e : Work (StateM Host) α).run h ≠ (.ok a, h') := nofun

/-- **The store that a command opens** has the rows of the seed file, and on
top of them the providers of the settings. Nothing in the store tells
afterwards which of the providers came from where. -/
theorem of_openStore {c : Config} {path text : String} {rows : Store.Contents}
    {s : Store} (hpath : c.storage.seedFile = some path)
    (htext : h.file? path = some text)
    (hrows : Store.Contents.ofText? text = some rows)
    (hrun : (openStore (m := StateM Host) c).run h = (.ok s, h')) :
    s = (Store.ofContents rows).addProviders c.providers
      ∧ h'.clock = h.clock := by
  unfold openStore at hrun
  rw [hpath] at hrun
  obtain ⟨seed, h₁, hseed, hrun⟩ := run_bind_eq_ok.1 hrun
  cases run_ask_eq_ok.1 hseed
  obtain ⟨store, h₂, hstore, hrun⟩ := run_bind_eq_ok.1 hrun
  obtain ⟨hstore, rfl⟩ := run_require_eq_ok.1 hstore
  simp only [htext, Config.openStore, hpath, Option.bind_some, hrows] at hstore
  cases hstore
  cases hfile : c.storage.readingsFile with
  | none =>
    rw [hfile] at hrun
    cases hrun
    exact ⟨rfl, rfl⟩
  | some log =>
    rw [hfile] at hrun
    obtain ⟨opened, h₂, hopen, hrun⟩ := run_bind_eq_ok.1 hrun
    have hwrite : h.write log ((h.file? log).getD "") = (opened, h₂) :=
      run_ask_eq_ok.1 hopen
    cases opened with
    | false =>
      obtain ⟨_, _, hthrow, -⟩ := run_bind_eq_ok.1 hrun
      exact absurd hthrow not_run_throw_eq_ok
    | true =>
      have hclock := Host.clock_write h log ((h.file? log).getD "")
      rw [hwrite] at hclock
      cases hrun
      exact ⟨rfl, hclock⟩

/-- A command that prints leaves the files as they are. -/
theorem file?_print {m : String} (path : String)
    (hrun : (Work.ask (Machine.print m : StateM Host Unit)).run h
      = (.ok (), h')) :
    h'.file? path = h.file? path := by
  cases run_ask_eq_ok.1 hrun
  rfl

/-- **What thinning writes** into the seed file are the rows of the store that
it opened, as the pass left them. It is the whole store that is written, and
not only the points of the tracks. -/
theorem of_simplify {o : SimplifyOptions} {c : Config} {path : String}
    (hpath : c.storage.seedFile = some path) (hdevice : path ≠ Host.nullDevice)
    (hrun : (simplify (m := StateM Host) o c).run h = (.ok (), h')) :
    ∃ h₁ s report s', (openStore (m := StateM Host) c).run h = (.ok s, h₁) ∧
      s.thin (o.tolerance.getD c.jobs.tolerance)
        (o.lookback.getD c.jobs.lookback) h₁.clock
        = .ok (report, s') ∧
      h'.file? path = some s'.contents.toText := by
  unfold simplify at hrun
  rw [hpath] at hrun
  obtain ⟨s, h₁, hopen, hrun⟩ := run_bind_eq_ok.1 hrun
  obtain ⟨now, h₂, hnow, hrun⟩ := run_bind_eq_ok.1 hrun
  cases run_ask_eq_ok.1 hnow
  obtain ⟨⟨report, s'⟩, h₂, hpass, hrun⟩ := run_bind_eq_ok.1 hrun
  obtain ⟨hthin, rfl⟩ := run_require_eq_ok.1 hpass
  obtain ⟨done, h₂, hdone, hrun⟩ := run_bind_eq_ok.1 hrun
  have hwrite : h₁.write path s'.contents.toText = (done, h₂) :=
    run_ask_eq_ok.1 hdone
  refine ⟨h₁, s, report, s', hopen, hthin, ?_⟩
  cases done with
  | false =>
    obtain ⟨_, _, hthrow, -⟩ := run_bind_eq_ok.1 hrun
    exact absurd hthrow not_run_throw_eq_ok
  | true =>
    rw [← Host.file?_of_write hdevice hwrite]
    obtain ⟨_, h₃, hprint, hrun⟩ := run_bind_eq_ok.1 hrun
    rw [← file?_print path hprint]
    split at hrun
    · exact file?_print path hrun
    · cases hrun
      rfl

/-! ## The seed file -/

/-- **What thinning makes of a seed file.** Let the file that the settings
name hold rows of which no two of a kind have one number, and let thinning
come to its end. Then the file holds the same vehicles as before, and the
points of before less those that a track of the span drops. The providers
are those that stand in the settings, and those of before that have none of
their numbers: they are the same as before exactly if whoever stands in the
settings was in the file already, as it is there. -/
theorem seedFile_of_simplify (o : SimplifyOptions) (c : Config) (h h' : Host)
    (path text : String) (rows : Store.Contents)
    (hpath : c.storage.seedFile = some path) (htext : h.file? path = some text)
    (hrows : Store.Contents.ofText? text = some rows)
    (hdistinct : rows.Distinct)
    (hrun : (simplify (m := StateM Host) o c).run h = (.ok (), h')) :
    ∃ span written, (o.lookback.getD c.jobs.lookback).toSpan? = some span ∧
      h'.file? path = some (Store.Contents.toText written) ∧
      written.vehicles ~ rows.vehicles ∧
      (written.points ~ rows.points.filter fun p =>
        ∀ t ∈ (Store.ofContents rows).tracks none (h.clock.minus span) h.clock,
          p.id ∉ t.droppedIds (o.tolerance.getD c.jobs.tolerance)) ∧
      (∀ p, p ∈ written.providers ↔ Provider.Stands c.providers p ∨
        p ∈ rows.providers ∧ ∀ q ∈ c.providers, q.id ≠ p.id) ∧
      ((∀ p, p ∈ written.providers ↔ p ∈ rows.providers) ↔
        ∀ p, Provider.Stands c.providers p → p ∈ rows.providers) := by
  have hdevice : path ≠ Host.nullDevice := by
    rintro rfl
    cases htext
    cases hrows
  obtain ⟨h₁, s, report, s', hopen, hthin, hfile⟩ :=
    of_simplify hpath hdevice hrun
  obtain ⟨rfl, hclock⟩ := of_openStore hpath htext hrows hopen
  obtain ⟨span, hspan, hloses⟩ := Store.loses_of_thin hthin
  obtain ⟨hproviders, hvehicles, hpoints⟩ := Store.contents_ofContents hdistinct
  have hnumbered :
      ((Store.ofContents rows).addProviders c.providers).PointsNumbered := by
    unfold Store.PointsNumbered
    rw [Store.points_addProviders]
    exact (Store.pointsFiled_ofContents rows).numbered
  refine ⟨span, s'.contents, hspan, hfile, ?_, ?_, fun p => ?_, ?_⟩
  · show s'.vehicles.values ~ _
    rw [hloses.vehicles, Store.vehicles_addProviders]
    exact hvehicles
  · show s'.points.values ~ _
    rw [hloses.values_eq hnumbered, Store.points_addProviders]
    simp only [Store.tracks_addProviders, hclock, not_exists, not_and]
    exact hpoints.filter _
  · show p ∈ s'.providers ↔ _
    rw [hloses.providers, Store.mem_addProviders, hproviders]
  · show (∀ p, p ∈ s'.providers ↔ _) ↔ _
    rw [hloses.providers, ← hproviders]
    exact Store.mem_addProviders_iff_mem (hproviders ▸ hdistinct.providers)

/-! ### Two runs -/

/-- A provider that is in the seed file, and one that is not. -/
def mainProvider : Provider := ⟨⟨1⟩, "main", []⟩

@[inherit_doc mainProvider]
def guestProvider : Provider := ⟨⟨2⟩, "guest", []⟩

/-- The rows of the seed file, -/
def seedRows : Store.Contents :=
  ⟨[mainProvider], [⟨⟨4⟩, "a", none, none, ⟨1⟩, .pending⟩], []⟩

/-- and how they are written in it. -/
def seedText : String :=
  "\x7b\"providers\":[\x7b\"id\":1,\"name\":\"main\",\"ip_patterns\":[]\x7d],"
    ++ "\"vehicles\":[\x7b\"id\":4,\"imei\":\"a\",\"provider_id\":1\x7d]\x7d"

/-- A machine with that file. -/
def seedHost : Host := ⟨[("seed", seedText)], ⟨0, 0⟩, "", []⟩

/-- Settings with that file and a provider of their own. -/
def settingsWith (p : Provider) : Config :=
  { storage := { seedFile := some "seed" }, providers := [p] }

/-- What is written in the seed file are its rows. -/
theorem ofText?_seedText : Store.Contents.ofText? seedText = some seedRows := by
  have heval : (Store.Contents.ofText? seedText).map (fun c =>
      (c.providers, c.vehicles, c.points.map (·.id)))
      = some (seedRows.providers, seedRows.vehicles, []) := by decide +kernel
  obtain ⟨⟨ps, vs, points⟩, htext, hrows⟩ := Option.map_eq_some_iff.1 heval
  obtain ⟨rfl, hrest⟩ := Prod.mk.inj hrows
  obtain ⟨rfl, hpoints⟩ := Prod.mk.inj hrest
  obtain rfl := List.map_eq_nil_iff.1 hpoints
  exact htext

theorem distinct_seedRows : seedRows.Distinct :=
  ⟨by decide, by decide, by decide⟩

/-- A run that is known to come to its end. -/
theorem run_of_isOk {x : Work (StateM Host) Unit}
    (hok : (x.run h).1.isOk = true) :
    x.run h = (.ok (), (x.run h).2) := by
  rcases hx : x.run h with ⟨_ | u, h'⟩
  · rw [hx] at hok
    cases hok
  · rfl

/-- The settings have the provider of the file once more: all is as it was. -/
theorem seedFile_of_known_provider :
    ∃ h',
      (simplify (m := StateM Host) {} (settingsWith mainProvider)).run seedHost
      = (.ok (), h') ∧
      Store.Contents.ofText? seedText = some seedRows ∧ seedRows.Distinct ∧
      ∃ written, h'.file? "seed" = some (Store.Contents.toText written) ∧
        written.vehicles ~ seedRows.vehicles ∧
        ∀ p, p ∈ written.providers ↔ p ∈ seedRows.providers := by
  have hrun := run_of_isOk (h := seedHost)
    (x := simplify (m := StateM Host) {} (settingsWith mainProvider))
      (by decide +kernel)
  obtain ⟨span, written, -, hfile, hvehicles, -, -, hsame⟩ :=
    seedFile_of_simplify {} (settingsWith mainProvider) seedHost _ "seed"
      seedText seedRows rfl rfl
      ofText?_seedText distinct_seedRows hrun
  refine ⟨_, hrun, ofText?_seedText, distinct_seedRows, written, hfile,
    hvehicles, hsame.2 fun p hp => ?_⟩
  have hp : p ∈ [mainProvider] := hp.mem
  exact hp

/-- **A provider of the settings gets into the seed file**, and is still there
when it is taken out of the settings. -/
theorem seedFile_of_guest_provider :
    ∃ h',
      (simplify (m := StateM Host) {} (settingsWith guestProvider)).run seedHost
        = (.ok (), h') ∧
      Store.Contents.ofText? seedText = some seedRows ∧ seedRows.Distinct ∧
      h'.file? "seed" = some
        { seedRows with providers := [mainProvider, guestProvider] }.toText ∧
      guestProvider ∉ seedRows.providers := by
  have hrun := run_of_isOk (h := seedHost)
    (x := simplify (m := StateM Host) {} (settingsWith guestProvider))
      (by decide +kernel)
  exact ⟨_, hrun, ofText?_seedText, distinct_seedRows,
    by decide +kernel, by decide⟩

end CommandLine

end Telematics
