import ComponentBook.Proofs.Source.Listing
import ComponentBook.Watch.Run
import ComponentBook.World.Basic

/-! # What a watcher tells

Each poll of a watcher tells the sources that are new or have another signature by now. Others write and
take away files between two polls; each write gives its file a time that nothing has had before. Then a poll
tells exactly the sources that are there and have been written since the poll before, once each and in
ascending order (**`Watcher.tells_polls`**). It takes that no way leads back into the directory that is
watched through a directory that has gone (**`Watcher.not_tells_of_way_back`**). A run of polls ends with the
first one that fails (`Watcher.run_eq_ok_iff`, `Watcher.run_eq_error_iff`). -/

namespace ComponentBook

/-- A pause that is not interrupted ends with the disk as others have left it. -/
theorem World.pause_of_cons (w : World) (seconds : Double) {round : List Disk.Change}
    {pauses : List (List Disk.Change)} (h : w.pauses = round :: pauses) :
    (w.pause seconds).1 = .resumed ∧ (w.pause seconds).2.disk = w.disk.changes round := by
  rw [pause]
  dsimp only
  rw [h]
  exact ⟨rfl, rfl⟩

/-- Each look of watching is a poll: what it tells is documented, and the next look compares with it. -/
theorem attempt_watchFrom (s : Settings) (seconds : Double) (w : World) (seen : List Signature)
    (looks : Nat) {round : List Disk.Change} {pauses : List (List Disk.Change)}
    (h : w.pauses = round :: pauses) :
    w.attempt (watchFrom s seconds seen (looks + 1)) =
      match Watcher.poll ⟨s.componentsDirectory, s.extension, seen⟩ (w.disk.changes round) with
      | (.error failure, _) => (.error (.disk failure), (w.pause seconds).2)
      | (.ok changed, watcher) =>
        World.proceed (fun _ => watchFrom s seconds watcher.seen looks)
          ((w.pause seconds).2.attempt (documentChanges s changed)) := by
  obtain ⟨hwoken, hdisk⟩ := w.pause_of_cons seconds h
  have hwake : w.attempt (liftM (Plan.request (.pause seconds))) =
      (.ok (w.pause seconds).1, (w.pause seconds).2) := World.attempt_liftM w _
  have hsurvey : (w.pause seconds).2.attempt
      (ExceptT.mk (Plan.request (.survey s.componentsDirectory s.extension))) =
      ((surveySources (w.disk.changes round) s.componentsDirectory s.extension).mapError .disk,
        (w.pause seconds).2) := by
    rw [← hdisk]
    rfl
  rw [watchFrom, World.attempt_bind, hwake, hwoken]
  show World.attempt _ (ExceptT.mk _ >>= _) = _
  rw [World.attempt_bind, hsurvey, Watcher.poll]
  dsimp only
  rcases surveySources (w.disk.changes round) s.componentsDirectory s.extension with failure | now
  · rfl
  · show World.attempt _ (documentChanges s _ >>= _) = _
    rw [World.attempt_bind]

variable {d e : Disk} {w : Watcher} {directory p : Path} {extension : Text} {files : List Path}
  {seen : List Signature} {round : List Disk.Change} {rounds : List (List Disk.Change)}
  {outcome : Except Disk.Failure (List Path)}

/-! ## What is seen -/

/-- The signature of the file to which a path leads. -/
def signature? (d : Disk) (p : Path) : Option (Nat × Int) := (d.file p).toOption.map File.signature

/-- A look lists the sources with their signatures. -/
theorem surveySources_eq_map (d : Disk) (directory : Path) (extension : Text) :
    surveySources d directory extension = (sourceFiles d directory extension).map
      fun files => files.filterMap fun p => (signature? d p).map (p, ·) := by
  rw [surveySources]
  rcases sourceFiles d directory extension with failure | files
  · rfl
  · refine congrArg (fun list => Except.ok (files.filterMap list)) (funext fun p => ?_)
    rw [signature?]
    rcases d.file p with _ | f <;> rfl

theorem surveySources_eq_ok_iff :
    surveySources d directory extension = .ok seen ↔
      ∃ files, sourceFiles d directory extension = .ok files ∧
        files.filterMap (fun p => (signature? d p).map (p, ·)) = seen := by
  rw [surveySources_eq_map, map_eq_ok_iff]

/-- A look fails when the sources cannot be listed. -/
theorem surveySources_eq_error_iff {failure : Disk.Failure} :
    surveySources d directory extension = .error failure ↔
      sourceFiles d directory extension = .error failure := by
  rw [surveySources_eq_map, map_eq_error_iff]

/-- What has been seen of a path. -/
theorem lookup_signatures (signatureOf : Path → Option (Nat × Int)) (files : List Path) :
    (files.filterMap fun p => (signatureOf p).map (p, ·)).lookup p =
      if p ∈ files then signatureOf p else none := by
  induction files with
  | nil => rfl
  | cons q files ih =>
    rw [List.filterMap_cons]
    by_cases hpq : p = q
    · subst hpq
      rw [if_pos List.mem_cons_self]
      cases hq : signatureOf p with
      | none =>
        -- the path may stand further on, and has no signature there either
        rw [Option.map_none]
        dsimp only
        rw [ih, hq, ite_self]
      | some s => rw [Option.map_some, List.lookup_cons_self]
    · have hmem : p ∈ q :: files ↔ p ∈ files := by
        rw [List.mem_cons, or_iff_right hpq]
      have hne : (p == q) = false := by simpa using hpq
      simp only [hmem]
      cases signatureOf q with
      | none => exact ih
      | some s =>
        rw [Option.map_some]
        dsimp only
        rw [List.lookup_cons, hne, ih]

/-- The paths that a look lists are those of the sources, in their order. -/
theorem signatures_sublist (signatureOf : Path → Option (Nat × Int)) (files : List Path) :
    ((files.filterMap fun p => (signatureOf p).map (p, ·)).map Prod.fst).Sublist files := by
  induction files with
  | nil => exact List.Sublist.slnil
  | cons q files ih =>
    rw [List.filterMap_cons]
    cases signatureOf q with
    | none => exact ih.cons q
    | some s => exact ih.cons_cons q

/-- A path that a look lists is listed with its signature. -/
theorem mem_signatures {signatureOf : Path → Option (Nat × Int)} {s : Nat × Int} :
    (p, s) ∈ files.filterMap (fun q => (signatureOf q).map (q, ·)) ↔
      p ∈ files ∧ signatureOf p = some s := by
  rw [List.mem_filterMap]
  constructor
  · rintro ⟨q, hq, hpair⟩
    obtain ⟨t, ht, heq⟩ := Option.map_eq_some_iff.1 hpair
    obtain ⟨rfl, rfl⟩ := Prod.mk.inj heq
    exact ⟨hq, ht⟩
  · rintro ⟨hp, hs⟩
    exact ⟨p, hp, by rw [hs]; rfl⟩

/-- The changed sources are some of those that the later look lists, in their order. -/
theorem changedSources_sublist (before now : List Signature) :
    (changedSources before now).Sublist (now.map Prod.fst) := List.filter_sublist.map Prod.fst

/-! ## What a poll tells -/

/-- A poll after a round of changes tells the sources that are there and have been written in the round,
once each and in ascending order. It fails when the sources cannot be listed. -/
structure Tells (directory : Path) (extension : Text) (before : Disk) (round : List Disk.Change)
    (outcome : Except Disk.Failure (List Path)) : Prop where
  lists : ∀ files, sourceFiles (before.changes round) directory extension = .ok files →
    ∃ changed, outcome = .ok changed ∧ changed.Pairwise (Path.precedes · · = true) ∧
      changed.Nodup ∧
      ∀ p, p ∈ changed ↔ p ∈ files ∧ before.placeOf p ∈ before.writtenPlaces round
  fails : ∀ failure, sourceFiles (before.changes round) directory extension = .error failure →
    outcome = .error failure

namespace Watcher

/-- A watcher has seen what there is on a disk, or there is nothing to be seen, now and later on. -/
def HasSeen (w : Watcher) (d : Disk) : Prop :=
  surveySources d w.directory w.extension = .ok w.seen ∨
    ∀ e : Disk, e.workingDirectory = d.workingDirectory → ∀ files,
      sourceFiles e w.directory w.extension = .ok files → files = []

theorem hasSeen_start (h : start d directory extension = .ok w) :
    w.HasSeen d ∧ w.directory = directory ∧ w.extension = extension := by
  obtain ⟨seen, hseen, h⟩ := bind_eq_ok_iff.1 h
  obtain rfl := Except.ok.inj h
  exact ⟨.inl hseen, rfl, rfl⟩

/-- After a poll the watcher has seen what there is. -/
theorem hasSeen_poll (w : Watcher) (d : Disk) :
    (w.poll d).2.HasSeen d ∧ (w.poll d).2.directory = w.directory ∧
      (w.poll d).2.extension = w.extension := by
  rw [poll]
  split
  · next now hnow => exact ⟨.inl hnow, rfl, rfl⟩
  · next failure hfailure =>
    refine ⟨.inr fun e hcwd files hfiles => ?_, rfl, rfl⟩
    exact eq_nil_of_sourceFiles_error (surveySources_eq_error_iff.1 hfailure) hcwd hfiles

/-- What a watcher has seen of a source that is there after a round: its signature, exactly when the round
has not written it. -/
theorem lookup_seen_iff (hregular : d.Regular) (hfresh : d.Fresh round) (hway : d.HasWay directory)
    (hextension : ['.', '.'] ∉ (Path.ofText ('*' :: extension)).names)
    (hseen : surveySources d directory extension = .ok seen)
    (hfiles : sourceFiles (d.changes round) directory extension = .ok files) (hp : p ∈ files) :
    seen.lookup p = signature? (d.changes round) p ↔ d.placeOf p ∉ d.writtenPlaces round := by
  have hcwd := Disk.workingDirectory_changes d round
  have hplace := Disk.placeOf_congr hcwd p
  obtain ⟨f, hfile, hentry⟩ :=
    exists_file_of_mem_sourceFiles (hregular.changes round) hextension hfiles hp
  obtain ⟨before, hbefore, rfl⟩ := surveySources_eq_ok_iff.1 hseen
  have hnow : signature? (d.changes round) p = some f.signature := by
    rw [signature?, hfile]
    rfl
  rw [hnow, lookup_signatures]
  rw [hplace] at hentry
  rcases Disk.file_of_changes hentry with ⟨hwritten, htime⟩ | ⟨hnot, hold⟩
  · -- no file had the time that the write gave
    refine ⟨fun hlookup => ?_, fun hnot => absurd hwritten hnot⟩
    split at hlookup
    · next hp' =>
      obtain ⟨g, hg, hgentry⟩ := exists_file_of_mem_sourceFiles hregular hextension hbefore hp'
      rw [signature?, hg] at hlookup
      have hmodified : g.modified = f.modified :=
        congrArg Prod.snd (Option.some.inj hlookup)
      rw [← hmodified] at htime
      exact absurd htime (hfresh.unused _ g hgentry)
    · cases hlookup
  · -- the file was there before, and nothing has been written at its place
    refine ⟨fun _ => hnot, fun _ => ?_⟩
    rw [← hplace] at hold
    have hlisted : p ∈ before :=
      mem_sourceFiles_of_file (hregular.changes round) hregular.sound hcwd.symm hway hextension
        hfiles hp hold hbefore
    obtain ⟨g, hg, hgentry⟩ := exists_file_of_mem_sourceFiles hregular hextension hbefore hlisted
    rw [← hplace, hold] at hgentry
    obtain rfl := Entry.file.inj (Option.some.inj hgentry)
    rw [if_pos hlisted, signature?, hg]
    rfl

/-- **A poll tells the sources that are there and were written since the last one.** -/
theorem tells_poll (hregular : d.Regular) (hfresh : d.Fresh round) (hway : d.HasWay w.directory)
    (hextension : ['.', '.'] ∉ (Path.ofText ('*' :: w.extension)).names) (hseen : w.HasSeen d) :
    Tells w.directory w.extension d round (w.poll (d.changes round)).1 := by
  constructor
  · intro files hfiles
    have hnow := surveySources_eq_ok_iff.2 ⟨files, hfiles, rfl⟩
    rw [poll, hnow]
    have hsublist := (changedSources_sublist w.seen _).trans (signatures_sublist
      (signature? (d.changes round)) files)
    refine ⟨_, rfl, (pairwise_sourceFiles hfiles).sublist hsublist,
      (nodup_sourceFiles hfiles).sublist hsublist, fun p => ?_⟩
    rw [mem_changedSources]
    rcases hseen with hseen | hnone
    · constructor
      · -- a source whose signature has changed has been written, and the other way round
        rintro ⟨s, hs, hchanged⟩
        obtain ⟨hp, hs⟩ := mem_signatures.1 hs
        refine ⟨hp, by_contra fun hnot => hchanged ?_⟩
        rw [(lookup_seen_iff hregular hfresh hway hextension hseen hfiles hp).2 hnot, hs]
      · rintro ⟨hp, hwritten⟩
        obtain ⟨f, hf, -⟩ :=
          exists_file_of_mem_sourceFiles (hregular.changes round) hextension hfiles hp
        have hs : signature? (d.changes round) p = some f.signature := by
          rw [signature?, hf]
          rfl
        refine ⟨f.signature, mem_signatures.2 ⟨hp, hs⟩, fun hsame => ?_⟩
        rw [← hs] at hsame
        exact (lookup_seen_iff hregular hfresh hway hextension hseen hfiles hp).1 hsame hwritten
    · -- there is nothing to be seen
      obtain rfl := hnone _ (Disk.workingDirectory_changes d round) files hfiles
      simp
  · intro failure hfailure
    rw [poll, surveySources_eq_error_iff.2 hfailure]

/-! ## Polls one after another -/

/-- A run succeeds when no poll fails, and tells what the polls tell. -/
theorem run_eq_ok_iff {told : List (List Path)} :
    w.run d rounds = .ok told ↔ w.polls d rounds = told.map .ok := by
  induction rounds generalizing w d told with
  | nil => rw [run, polls, Except.ok.injEq, eq_comm, ← List.map_eq_nil_iff (f := Except.ok), eq_comm]
  | cons round rounds ih =>
    rw [run, polls]
    rcases w.poll (d.changes round) with ⟨failure | changed, w'⟩
    · refine ⟨nofun, fun h => ?_⟩
      cases told <;> cases h
    · dsimp only
      rw [map_eq_ok_iff]
      constructor
      · rintro ⟨rest, hrest, rfl⟩
        rw [ih.1 hrest, List.map_cons]
      · intro h
        obtain ⟨first, rest, rfl, hfirst, hrest⟩ := List.map_eq_cons_iff.1 h.symm
        obtain rfl := Except.ok.inj hfirst
        exact ⟨rest, ih.2 hrest.symm, rfl⟩

/-- A run fails with the first poll that fails. -/
theorem run_eq_error_iff {failure : Disk.Failure} :
    w.run d rounds = .error failure ↔
      ∃ (told : List (List Path)) (later : List (Except Disk.Failure (List Path))),
        w.polls d rounds = told.map .ok ++ .error failure :: later := by
  induction rounds generalizing w d with
  | nil =>
    refine ⟨nofun, ?_⟩
    rintro ⟨told, later, h⟩
    cases told <;> cases h
  | cons round rounds ih =>
    rw [run, polls]
    rcases w.poll (d.changes round) with ⟨first | changed, w'⟩
    · constructor
      · intro h
        obtain rfl := Except.error.inj h
        exact ⟨[], _, rfl⟩
      · rintro ⟨told, later, h⟩
        cases told <;> cases h
        rfl
    · dsimp only
      rw [map_eq_error_iff, ih]
      constructor
      · rintro ⟨told, later, hrest⟩
        exact ⟨changed :: told, later, congrArg (Except.ok changed :: ·) hrest⟩
      · rintro ⟨told, later, h⟩
        cases told with
        | nil => cases h
        | cons first told => exact ⟨told, later, (List.cons.inj h).2⟩

/-- A poll tells what it should after any rounds before its own. -/
theorem exists_tells_polls (hstart : start d directory extension = .ok w) (hregular : d.Regular)
    (hfresh : d.Fresh rounds.flatten)
    (hway : ∀ earlier, earlier <+: rounds → (d.changes earlier.flatten).HasWay directory)
    (hextension : ['.', '.'] ∉ (Path.ofText ('*' :: extension)).names)
    (earlier later : List (List Disk.Change)) (hrounds : rounds = earlier ++ round :: later) :
    ∃ outcome, (w.polls d rounds)[earlier.length]? = some outcome ∧
      Tells directory extension (d.changes earlier.flatten) round outcome := by
  obtain ⟨hseen, rfl, rfl⟩ := hasSeen_start hstart
  clear hstart
  -- along the rounds, the watcher has seen what there is after each of them
  induction earlier generalizing d w rounds with
  | nil =>
    subst hrounds
    exact ⟨_, rfl, tells_poll hregular hfresh.front (hway [] List.nil_prefix) hextension hseen⟩
  | cons first earlier ih =>
    subst hrounds
    obtain ⟨hseen', hdirectory, hextension'⟩ := hasSeen_poll w (d.changes first)
    have hrest (front : List (List Disk.Change)) (hfront : front <+: earlier ++ round :: later) :
        ((d.changes first).changes front.flatten).HasWay w.directory := by
      have h := hway (first :: front) ((List.prefix_cons_inj first).2 hfront)
      rwa [List.flatten_cons, Disk.changes_append] at h
    rw [← hdirectory] at hrest
    rw [← hextension'] at hextension
    have htells := ih (hregular.changes first) hfresh.changes rfl hseen' hrest hextension
    rw [hdirectory, hextension'] at htells
    rw [List.flatten_cons, Disk.changes_append]
    exact htells

/-- **No change is lost and none is told twice.** Whatever is written and taken away in any number of
rounds, the poll after each round tells the sources that are there and were written in the round. So does a
run of polls in which none of them fails. -/
theorem tells_polls (hstart : start d directory extension = .ok w) (hregular : d.Regular)
    (hfresh : d.Fresh rounds.flatten)
    (hway : ∀ earlier, earlier <+: rounds → (d.changes earlier.flatten).HasWay directory)
    (hextension : ['.', '.'] ∉ (Path.ofText ('*' :: extension)).names)
    (earlier later : List (List Disk.Change)) (hrounds : rounds = earlier ++ round :: later) :
    ∃ outcome, (w.polls d rounds)[earlier.length]? = some outcome ∧
      Tells directory extension (d.changes earlier.flatten) round outcome ∧
      ∀ told, w.run d rounds = .ok told → told[earlier.length]?.map .ok = some outcome := by
  obtain ⟨outcome, houtcome, htells⟩ :=
    exists_tells_polls hstart hregular hfresh hway hextension earlier later hrounds
  refine ⟨outcome, houtcome, htells, fun told htold => ?_⟩
  rw [← List.getElem?_map, ← run_eq_ok_iff.1 htold, houtcome]

/-- A directory of sources with one source in it. -/
def watchedDisk : Disk where
  entries := [(["src".toList], .directory),
    (["src".toList, "X.vue".toList], .file { content := .text "1".toList, modified := 0 })]

/-- The source is written again; nothing happens; it is taken away and written with the same text; it is
taken away. -/
def watchedRounds : List (List Disk.Change) :=
  let source := Path.ofText "src/X.vue".toList
  [[.write source (.text "2".toList) 1], [], [.remove source, .write source (.text "2".toList) 2],
    [.remove source]]

/-- What a watcher of the directory sees at first. -/
def watchedFirst : Watcher where
  directory := Path.ofText "src".toList
  extension := ".vue".toList
  seen := [(Path.ofText "src/X.vue".toList, (1, 0))]

/-- The source that has been taken away and written with the same text is told. -/
theorem tells_polls_sample :
    watchedFirst.run watchedDisk watchedRounds =
        .ok [[Path.ofText "src/X.vue".toList], [], [Path.ofText "src/X.vue".toList], []] ∧
      ∃ outcome, (watchedFirst.polls watchedDisk watchedRounds)[2]? = some outcome ∧
        Tells (Path.ofText "src".toList) ".vue".toList
          (watchedDisk.changes (watchedRounds.take 2).flatten)
          [.remove (Path.ofText "src/X.vue".toList),
            .write (Path.ofText "src/X.vue".toList) (.text "2".toList) 2] outcome ∧
        ∀ told, watchedFirst.run watchedDisk watchedRounds = .ok told →
          told[2]?.map .ok = some outcome := by
  have hregular : watchedDisk.Regular :=
    ⟨Disk.sound_of_forall (by decide) (by decide), by decide, by decide⟩
  have hfresh : watchedDisk.Fresh watchedRounds.flatten :=
    Disk.fresh_of_forall (by decide) (by decide)
  refine ⟨by decide +kernel, ?_⟩
  refine tells_polls (by decide +kernel) hregular hfresh (fun earlier _ => ?_) (by decide +kernel)
    (watchedRounds.take 2) (watchedRounds.drop 3) rfl
  refine Disk.hasWay_of_not_mem ?_
  rw [Disk.namesOf, Disk.workingDirectory_changes]
  decide +kernel

/-- A poll that tells a source at whose place nothing has been written tells too much. -/
theorem not_tells_of_not_written {before : Disk} {changed : List Path}
    (hfiles : sourceFiles (before.changes round) directory extension = .ok files)
    (hp : p ∈ changed) (hnot : before.placeOf p ∉ before.writtenPlaces round) :
    ¬ Tells directory extension before round (.ok changed) := by
  intro htells
  obtain ⟨told, htold, -, -, hmem⟩ := htells.lists files hfiles
  obtain rfl := Except.ok.inj htold
  exact hnot ((hmem p).1 hp).2

/-- A source beside a directory that has a file in it. -/
def nestedDisk : Disk where
  entries := [(["src".toList], .directory), (["src".toList, "a".toList], .directory),
    (["src".toList, "a".toList, "k.txt".toList], .file { content := .text "1".toList, modified := 0 }),
    (["src".toList, "b.vue".toList], .file { content := .text "1".toList, modified := 1 })]

/-- The directory beside the source goes, and comes back with another file in it. -/
def nestedRounds : List (List Disk.Change) :=
  [[.remove (Path.ofText "src/a".toList)],
    [.write (Path.ofText "src/a/notes.txt".toList) (.text "x".toList) 2]]

/-- A disk with nothing on it. -/
def emptyDisk : Disk := { entries := [] }

/-- **A way that leads back through a directory that has gone makes a poll tell what nobody has written.**
The directory `src/a/..` is `src` only as long as there is a directory `src/a`. In the same way a pattern
with a name `..` selects a source through a directory that has just been made. A pattern that is refused is
noticed only once the directory is there: then the poll fails, and the run with it. -/
theorem not_tells_of_way_back :
    (nestedDisk.Regular ∧ nestedDisk.Fresh nestedRounds.flatten ∧
      ∃ w, start nestedDisk (Path.ofText "src/a/..".toList) ".vue".toList = .ok w ∧
        ∃ outcome, (w.polls nestedDisk nestedRounds)[1]? = some outcome ∧
          ¬ Tells (Path.ofText "src/a/..".toList) ".vue".toList
            (nestedDisk.changes [.remove (Path.ofText "src/a".toList)])
            [.write (Path.ofText "src/a/notes.txt".toList) (.text "x".toList) 2] outcome) ∧
    (watchedDisk.Regular ∧ watchedDisk.Fresh [.write (Path.ofText "src/a/y".toList) (.text []) 1] ∧
      ∃ w, start watchedDisk (Path.ofText "src".toList) "/../X.vue".toList = .ok w ∧
        ∃ outcome, (w.polls watchedDisk
            [[.write (Path.ofText "src/a/y".toList) (.text []) 1]])[0]? = some outcome ∧
          ¬ Tells (Path.ofText "src".toList) "/../X.vue".toList watchedDisk
            [.write (Path.ofText "src/a/y".toList) (.text []) 1] outcome) ∧
    (emptyDisk.Regular ∧ emptyDisk.Fresh [.write (Path.ofText "src/a".toList) (.text []) 1] ∧
      ∃ w, start emptyDisk (Path.ofText "src".toList) "*x".toList = .ok w ∧
        w.run emptyDisk [[.write (Path.ofText "src/a".toList) (.text []) 1]] =
          .error .misplacedStars) := by
  refine ⟨?_, ?_, ?_⟩
  · refine ⟨⟨Disk.sound_of_forall (by decide) (by decide), by decide, by decide⟩,
      Disk.fresh_of_forall (by decide) (by decide), ⟨Path.ofText "src/a/..".toList, ".vue".toList,
        [(Path.ofText "src/a/../b.vue".toList, (1, 1))]⟩, by decide +kernel,
      .ok [Path.ofText "src/a/../b.vue".toList], by decide +kernel, ?_⟩
    exact not_tells_of_not_written
      (show sourceFiles _ _ _ = .ok [Path.ofText "src/a/../b.vue".toList] by decide +kernel)
      List.mem_cons_self (by decide +kernel)
  · refine ⟨⟨Disk.sound_of_forall (by decide) (by decide), by decide, by decide⟩,
      Disk.fresh_of_forall (by decide) (by decide), ⟨Path.ofText "src".toList, "/../X.vue".toList, []⟩,
      by decide +kernel, .ok [Path.ofText "src/a/../X.vue".toList], by decide +kernel, ?_⟩
    exact not_tells_of_not_written
      (show sourceFiles _ _ _ = .ok [Path.ofText "src/a/../X.vue".toList] by decide +kernel)
      List.mem_cons_self (by decide +kernel)
  · exact ⟨⟨Disk.sound_of_forall (by decide) (by decide), by decide, by decide⟩,
      Disk.fresh_of_forall (by decide) (by decide), ⟨Path.ofText "src".toList, "*x".toList, []⟩,
      by decide +kernel, by decide +kernel⟩

end Watcher

end ComponentBook
