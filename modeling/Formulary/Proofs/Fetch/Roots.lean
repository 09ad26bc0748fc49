import Formulary.Proofs.Fetch.Agreement
import Formulary.Proofs.Fetch.Stopping

/-!
# The root of what is unpacked

An archive usually wraps its content in one directory, and that is the root of the source. Which one
it is, is told from what is listed where the archive was unpacked, and so from all that was unpacked
there before: the root is the directory of the archive just as long as nothing else is listed beside
it (`root_fetch`). After any fetches into the same destination it is found if they all unpacked a
directory of that name, and missed if one of them left another one (`root_after`).
-/

namespace Formulary

/-- The names that are listed at a path, if a directory is there. -/
def Files.namesIn (fs : Files) (cwd : Location) (p : Path) : List String :=
  match fs.list cwd p with
  | .ok listing => listing.map Prod.fst
  | .error _ => []

namespace Fetch

def sourceDir (target : Path) : Path := target.join "source"

def sources (target : Path) (w : World) : List String := w.files.namesIn w.here (sourceDir target)

/-- The only thing in a listing of a directory, if that is a directory. -/
def only? (dir : Path) : List (String × Node) → Option Path
  | [(name, .directory)] => some (dir.join name)
  | _ => none

def rootIn (dir : Path) (listing : List (String × Node)) : Path := (only? dir listing).getD dir

/-- A directory that is listed is told to be the root if it is the only thing that is listed. -/
theorem rootIn_eq {dir : Path} {listing : List (String × Node)} {top : String}
    (honce : (listing.map Prod.fst).Nodup) (htop : (top, .directory) ∈ listing) :
    rootIn dir listing =
      if ∀ name ∈ listing.map Prod.fst, name = top then dir.join top else dir := by
  split
  · next hall =>
    cases listing with
    | nil => cases htop
    | cons entry rest =>
      cases rest with
      | nil =>
        obtain rfl := List.mem_singleton.1 htop
        rfl
      | cons entry' rest =>
        have hfirst : entry.1 = top := hall _ (by simp)
        have hsecond : entry'.1 = top := hall _ (by simp)
        simp [hfirst, hsecond] at honce
  · next hother =>
    unfold rootIn only?
    split
    · next name =>
      obtain ⟨rfl, -⟩ := Prod.mk.inj (List.mem_singleton.1 htop)
      exact absurd (by simp) hother
    · rfl

/-! ### Fetches -/

/-- A fetch of an archive whose content is wrapped in one directory. -/
structure Wrapped extends Call where
  top : String

section Fetches

variable {cache target : Path} {f : Wrapped} {w : World}

def Wrapped.fetch (cache target : Path) (f : Wrapped) (w : World) : Except Failure Path × World :=
  attempted (archive f.launch cache f.archive target f.timeout) w

def Wrapped.ready (cache target : Path) (f : Wrapped) (w : World) : World :=
  (outcome (Disk.makeAll (sourceDir target)) (f.run cache w).2).2

/-- All that a fetch comes to. -/
inductive Fetched (cache target : Path) (f : Wrapped) (w : World) :
    Except Failure Path × World → Prop
  /-- The unpacking program is not started. -/
  | idle {e : Failure} {v : World} (hv : v ∈ [(f.run cache w).2, f.ready cache target w]) :
    Fetched cache target f w (.error e, v)
  /-- It is, and leaves the files as they are after some time. If there is a root, this is the time
  when the program had ended well. -/
  | unpacked {cached : Path} {options : List String} {process : Process} {time : Millis}
    {r : Except Failure Path} {v : World} (hcached : (f.run cache w).1 = .ok cached)
    (hlaunch : f.launch (unpacker options cached (sourceDir target)) (f.ready cache target w).site =
      .ok process)
    (hfiles : v.files = (process.after time).files) (hhere : v.here = (f.ready cache target w).here)
    (hroot : ∀ root, r = .ok root →
      (∃ moment status, process.ending = some (moment, .ok status) ∧ status.success = true ∧
        time = moment + 1) ∧
      ∃ listing, v.files.list v.here (sourceDir target) = .ok listing ∧
        root = rootIn (sourceDir target) listing) :
    Fetched cache target f w (r, v)

theorem attempted_onlyDirectory (dir : Path) (w : World) :
    attempted (onlyDirectory? dir) w =
      match w.files.list w.here dir with
      | .ok listing => (.ok (only? dir listing), w)
      | .error fault => (.error (.io fault.message), w) := by
  have hlist : outcome (Disk.list dir) w = (w.files.list w.here dir, w) := rfl
  unfold onlyDirectory?
  rw [attempted_bind, Attempt.io, attempted_orFail, hlist]
  cases w.files.list w.here dir with
  | error fault => rfl
  | ok listing =>
    cases listing with
    | nil => rfl
    | cons entry rest =>
      obtain ⟨name, node⟩ := entry
      cases rest with
      | nil => cases node <;> rfl
      | cons => cases node <;> rfl

theorem ending_of_endsWell {launch : Launcher} {c : Command} {v : World} {process : Process}
    (hlaunch : launch c v.site = .ok process) (timeout : Millis) :
    ∃ time, (outcome (supervise launch c timeout) v).2.files = (process.after time).files ∧
      (EndsWell launch c timeout v → ∃ moment status, process.ending = some (moment, .ok status) ∧
        status.success = true ∧ time = moment + 1) := by
  obtain ⟨o, time, hout, hfiles, -, hseen, -⟩ := supervise_seen hlaunch timeout
  refine ⟨time, hfiles, ?_⟩
  rintro ⟨o', ho', hsuccess⟩
  obtain ⟨o, rfl, rfl⟩ := map_eq_ok.1 (hout.symm.trans ho')
  cases o with
  | exited status =>
    obtain ⟨⟨⟩⟩ | hseen := hseen
    obtain ⟨moment, hended, -, rfl⟩ := Process.ended_of_seen hseen
    exact ⟨moment, status, hended, hsuccess, rfl⟩
  | timedOut | cancelled => cases hsuccess

/-- An archive is not unpacked at all, or by a program that leaves the files as they are after some
time. -/
theorem extract_cases (launch : Launcher) (cached : Path) (fileName : String) (dir : Path)
    (timeout : Millis) (v : World) :
    (∃ e, attempted (extract launch cached fileName dir timeout) v = (.error e, v)) ∨
    ∃ options process time r u, launch (unpacker options cached dir) v.site = .ok process ∧
      attempted (extract launch cached fileName dir timeout) v = (r, u) ∧
      u.files = (process.after time).files ∧ u.here = v.here ∧
      (r = .ok () → ∃ moment status, process.ending = some (moment, .ok status) ∧
        status.success = true ∧ time = moment + 1) := by
  unfold extract
  cases unpackArgs? fileName with
  | none => exact .inl ⟨_, rfl⟩
  | some options =>
    dsimp only
    rw [attempted_bind, ← unpacker]
    have hhere : (outcome (supervise launch (unpacker options cached dir) timeout) v).2.here =
        v.here := by
      have hstarts : Starts (fun _ => True) v
          (outcome (supervise launch (unpacker options cached dir) timeout) v).2 :=
        starts_supervise launch _ timeout trivial
      rw [World.here, hstarts.cwd, World.here]
    have hhelper := runHelper_cases launch (unpacker options cached dir)
      "Failed to extract archive" timeout v
    cases hlaunch : launch (unpacker options cached dir) v.site with
    | error fault =>
      -- a program that is not started leaves the world as it was, so that this failed as well
      have hsame := supervise_refused hlaunch timeout
      rcases hhelper with ⟨⟨o, ho, -⟩, -⟩ | ⟨-, e, -, -, h⟩
      · rw [hsame] at ho
        cases ho
      · rw [h, hsame]
        exact .inl ⟨e, rfl⟩
    | ok process =>
      obtain ⟨time, hfiles, hending⟩ := ending_of_endsWell hlaunch timeout
      refine .inr ⟨options, process, time, ?_⟩
      rcases hhelper with ⟨hend, o, h⟩ | ⟨-, e, -, -, h⟩ <;> rw [h]
      · exact ⟨_, _, hlaunch, rfl, hfiles, hhere, fun _ => hending hend⟩
      · exact ⟨_, _, hlaunch, rfl, hfiles, hhere, by simp⟩

theorem fetched_fetch (cache target : Path) (f : Wrapped) (w : World) :
    Fetched cache target f w (f.fetch cache target w) := by
  have hrun : attempted (download f.launch cache f.archive f.timeout) w = f.run cache w := rfl
  unfold Wrapped.fetch
  rw [archive_eq, attempted_bind, hrun]
  rcases hcached : f.run cache w with ⟨e | cached, u⟩
  · exact .idle (by simp [hcached])
  dsimp only
  have hready : f.ready cache target w = (outcome (Disk.makeAll (sourceDir target)) u).2 := by
    rw [Wrapped.ready, hcached]
  unfold unpack
  rw [attempted_bind, ← sourceDir]
  rcases attempted_io (Disk.makeAll (sourceDir target)) u with ⟨_, -, h⟩ | ⟨fault, -, h⟩
  · rw [h, ← hready]
    dsimp only
    rw [attempted_bind]
    rcases extract_cases f.launch cached f.archive.fileName (sourceDir target) f.timeout
      (f.ready cache target w) with
      ⟨e, hextract⟩ | ⟨options, process, time, r, v, hlaunch, hextract, hfiles, hhere, hending⟩
    · rw [hextract]
      exact .idle (by simp)
    · rw [hextract]
      have hcached' : (f.run cache w).1 = .ok cached := by rw [hcached]
      cases r with
      | error e => exact .unpacked hcached' hlaunch hfiles hhere (by simp)
      | ok =>
        dsimp only
        rw [attempted_bind, attempted_onlyDirectory]
        cases hlist : v.files.list v.here (sourceDir target) with
        | error fault => exact .unpacked hcached' hlaunch hfiles hhere (by simp)
        | ok listing =>
          refine .unpacked hcached' hlaunch hfiles hhere fun root hroot => ?_
          cases hroot
          exact ⟨hending rfl, listing, hlist, rfl⟩
  · rw [h, ← hready]
    exact .idle (by simp)

/-! ### What is listed -/

/-- A process unpacks an archive into a directory: whenever it is stopped, at most `top` has come to
what was listed there, and when it has ended well, that is a directory. -/
structure Unpacks (top : String) (dir : Path) (site : Site) (process : Process) : Prop where
  kept : ∀ time, ∀ name ∈ site.files.namesIn site.cwd.parts dir,
    name ∈ (process.after time).files.namesIn site.cwd.parts dir
  added : ∀ time, ∀ name ∈ (process.after time).files.namesIn site.cwd.parts dir,
    name = top ∨ name ∈ site.files.namesIn site.cwd.parts dir
  whole : ∀ moment status, process.ending = some (moment, .ok status) → status.success = true →
    ∃ listing, (process.after (moment + 1)).files.list site.cwd.parts dir = .ok listing ∧
      (listing.map Prod.fst).Nodup ∧ (top, .directory) ∈ listing

/-- The content of the archive is wrapped in the directory `top`, and until it is unpacked nothing
changes where it is unpacked. -/
structure Orderly (cache target : Path) (f : Wrapped) (w : World) : Prop where
  aside : ∀ v ∈ [(f.run cache w).2, f.ready cache target w], ∀ name,
    name ∈ sources target v ↔ name ∈ sources target w
  unpacks : ∀ options cached process, (f.run cache w).1 = .ok cached →
    f.launch (unpacker options cached (sourceDir target)) (f.ready cache target w).site =
      .ok process →
    Unpacks f.top (sourceDir target) (f.ready cache target w).site process

theorem namesIn_of_list {fs : Files} {cwd : Location} {p : Path} {listing : List (String × Node)}
    (h : fs.list cwd p = .ok listing) : fs.namesIn cwd p = listing.map Prod.fst := by
  rw [Files.namesIn, h]

/-- **What a fetch adds to what is listed**, and what its root is then. -/
theorem Orderly.step (h : Orderly cache target f w) :
    (∀ name ∈ sources target w, name ∈ sources target (f.fetch cache target w).2) ∧
    (∀ name ∈ sources target (f.fetch cache target w).2,
      name = f.top ∨ name ∈ sources target w) ∧
    ∀ root, (f.fetch cache target w).1 = .ok root →
      f.top ∈ sources target (f.fetch cache target w).2 ∧
      root = if ∀ name ∈ sources target (f.fetch cache target w).2, name = f.top then
        (sourceDir target).join f.top else sourceDir target := by
  have hfetched := fetched_fetch cache target f w
  generalize f.fetch cache target w = r at hfetched ⊢
  cases hfetched with
  | idle hv =>
    -- nothing has come to where the archive would have been unpacked
    have hsame := h.aside _ hv
    exact ⟨fun name hname => (hsame name).2 hname, fun name hname => .inr ((hsame name).1 hname),
      by simp⟩
  | @unpacked cached options process time r v hcached hlaunch hfiles hhere hroot =>
    have hunpacks := h.unpacks options cached process hcached hlaunch
    have hready := h.aside (f.ready cache target w) (by simp)
    have hsources : sources target v = (process.after time).files.namesIn
        (f.ready cache target w).here (sourceDir target) := by
      rw [sources, hfiles, hhere]
    -- a root is told only when the program has ended well, and so after all of its work
    refine ⟨fun name hname => ?_, fun name hname => ?_, fun root hr => ?_⟩
    · rw [hsources]
      exact hunpacks.kept time name ((hready name).2 hname)
    · rw [hsources] at hname
      exact (hunpacks.added time name hname).imp id (hready name).1
    · obtain ⟨⟨moment, status, hending, hsuccess, rfl⟩, listing, hlist, rfl⟩ := hroot root hr
      obtain ⟨listing', hlist', honce, htop⟩ := hunpacks.whole moment status hending hsuccess
      rw [hfiles, hhere] at hlist
      obtain rfl : listing = listing' := Except.ok.inj (hlist.symm.trans hlist')
      rw [hsources, namesIn_of_list hlist]
      exact ⟨List.mem_map_of_mem htop, rootIn_eq honce htop⟩

/-- **The root is the directory of the archive as long as nothing else is listed beside it.** -/
theorem root_fetch (h : Orderly cache target f w) {root : Path}
    (hroot : (f.fetch cache target w).1 = .ok root) :
    root = if ∀ name ∈ sources target w, name = f.top then (sourceDir target).join f.top
      else sourceDir target := by
  obtain ⟨hkept, hadded, hgives⟩ := h.step
  obtain ⟨-, hroot⟩ := hgives root hroot
  rw [hroot]
  refine if_congr ⟨fun hall name hname => hall name (hkept name hname), fun hall name hname => ?_⟩
    rfl rfl
  rcases hadded name hname with htop | hold
  · exact htop
  · exact hall name hold

/-! ### One fetch after another -/

/-- The fetches of a history, each with the world it begins in. -/
def fetches (cache target : Path) : World → List Wrapped → List (Wrapped × World)
  | _, [] => []
  | w, f :: rest => (f, w) :: fetches cache target (f.fetch cache target w).2 rest

def afterAll (cache target : Path) : World → List Wrapped → World
  | w, [] => w
  | w, f :: rest => afterAll cache target (f.fetch cache target w).2 rest

theorem fetches_append (earlier later : List Wrapped) (w : World) :
    fetches cache target w (earlier ++ later) =
      fetches cache target w earlier ++
        fetches cache target (afterAll cache target w earlier) later := by
  induction earlier generalizing w with
  | nil => rfl
  | cons f rest ih => rw [List.cons_append, fetches, fetches, afterAll, ih, List.cons_append]

section Histories

variable {earlier : List Wrapped}

/-- What is listed stays listed, and so do the directories of all fetches that succeed. -/
theorem sources_kept
    (h : ∀ visit ∈ fetches cache target w earlier, Orderly cache target visit.1 visit.2)
    {name : String} (hname : name ∈ sources target w ∨
      ∃ visit ∈ fetches cache target w earlier,
        (∃ root, (visit.1.fetch cache target visit.2).1 = .ok root) ∧ visit.1.top = name) :
    name ∈ sources target (afterAll cache target w earlier) := by
  induction earlier generalizing w with
  | nil =>
    rcases hname with hname | ⟨visit, hvisit, -⟩
    · exact hname
    · cases hvisit
  | cons f rest ih =>
    obtain ⟨hf, hrest⟩ := List.forall_mem_cons.1 h
    obtain ⟨hkept, -, hgives⟩ := hf.step
    refine ih hrest ?_
    rcases hname with hname | ⟨visit, hvisit, ⟨root, hroot⟩, rfl⟩
    · exact .inl (hkept name hname)
    · rcases List.mem_cons.1 hvisit with rfl | hvisit
      · exact .inl (hgives root hroot).1
      · exact .inr ⟨visit, hvisit, ⟨root, hroot⟩, rfl⟩

/-- Nothing else is listed than what was, and directories of fetches. -/
theorem sources_added
    (h : ∀ visit ∈ fetches cache target w earlier, Orderly cache target visit.1 visit.2)
    {name : String} (hname : name ∈ sources target (afterAll cache target w earlier)) :
    name ∈ sources target w ∨ ∃ f ∈ earlier, f.top = name := by
  induction earlier generalizing w with
  | nil => exact .inl hname
  | cons f rest ih =>
    obtain ⟨hf, hrest⟩ := List.forall_mem_cons.1 h
    obtain ⟨-, hadded, -⟩ := hf.step
    rcases ih hrest hname with hold | ⟨g, hg, rfl⟩
    · rcases hadded name hold with rfl | hold
      · exact .inr ⟨f, by simp, rfl⟩
      · exact .inl hold
    · exact .inr ⟨g, List.mem_cons_of_mem f hg, rfl⟩

/-- **The root of a fetch depends on the fetches before it.** It is the directory of the archive
just as long as they have left nothing else beside it, or else the directory that all of them share.
So it is found if nothing else was listed at first and all earlier archives were wrapped in a
directory of the same name, and it is missed if something else was listed, or one of the earlier
fetches succeeded with a directory of another name. -/
theorem root_after (cache target : Path) (earlier : List Wrapped) (f : Wrapped) (w : World)
    (h : ∀ visit ∈ fetches cache target w (earlier ++ [f]), Orderly cache target visit.1 visit.2)
    {root : Path} (hroot : (f.fetch cache target (afterAll cache target w earlier)).1 = .ok root) :
    (root = if ∀ name ∈ sources target (afterAll cache target w earlier), name = f.top then
        (sourceDir target).join f.top else sourceDir target) ∧
    ((∀ name ∈ sources target w, name = f.top) → (∀ g ∈ earlier, g.top = f.top) →
      root = (sourceDir target).join f.top) ∧
    ((∃ name ∈ sources target w, name ≠ f.top) ∨
      (∃ visit ∈ fetches cache target w earlier,
        (∃ root, (visit.1.fetch cache target visit.2).1 = .ok root) ∧ visit.1.top ≠ f.top) →
      root = sourceDir target) := by
  rw [fetches_append, List.forall_mem_append] at h
  obtain ⟨hearlier, hlast⟩ := h
  have hroot := root_fetch (hlast (f, afterAll cache target w earlier) (by simp [fetches])) hroot
  refine ⟨hroot, ?_, ?_⟩
  · intro hnames htops
    rw [if_pos] at hroot
    · exact hroot
    intro name hname
    rcases sources_added hearlier hname with hold | ⟨g, hg, rfl⟩
    · exact hnames name hold
    · exact htops g hg
  -- what was beside it before is still there
  · intro hother
    rw [if_neg] at hroot
    · exact hroot
    intro hall
    rcases hother with ⟨name, hname, hne⟩ | ⟨visit, hvisit, hok, hne⟩
    · exact hne (hall name (sources_kept hearlier (.inl hname)))
    · exact hne (hall _ (sources_kept hearlier (.inr ⟨visit, hvisit, hok, rfl⟩)))

end Histories

end Fetches

/-! ### Two versions in one destination -/

def wrappedIn (dir : Path) (top : String) (site : Site) : Files :=
  (site.files.makeDirectory site.cwd.parts (dir.join top)).toOption.getD site.files

/-- A fetch whose archive holds a directory and nothing in it. -/
def wrapping (top : String) : Wrapped where
  url := top ++ ".tar"
  declared := ""
  launch := fun command site =>
    if command.program = "tar" then
      .ok (.instant 0 { files := wrappedIn ⟨command.args.getLast?.getD ""⟩ top site })
    else
      match command.args with
      | [_, _, file, _] =>
        .ok (.instant 0 {
          files := (site.files.write site.cwd.parts file [1]).toOption.getD site.files })
      | _ => .error .noEntry
  timeout := 1000
  top := top

theorem launch_unpacker (top : String) (options : List String) (cached dir : Path) (site : Site) :
    (wrapping top).launch (unpacker options cached dir) site =
      .ok (.instant 0 { files := wrappedIn dir top site }) := by
  have hlast : (options ++ [cached.text, "-C", dir.text]).getLast?.getD "" = dir.text := by simp
  have hargs : (unpacker options cached dir).args = options ++ [cached.text, "-C", dir.text] := rfl
  have hprogram : (unpacker options cached dir).program = "tar" := rfl
  dsimp only [wrapping]
  rw [if_pos hprogram, hargs, hlast]

/-- A fetch of a wrapped archive is as it is expected, where only a fitting directory comes to what is
listed. -/
theorem orderly_wrapping {cache target : Path} {top : String} {w : World}
    (old : List (String × Node))
    (hold : ∀ v ∈ [w, ((wrapping top).run cache w).2, (wrapping top).ready cache target w],
      sources target v = old.map Prod.fst)
    (hnew : (wrappedIn (sourceDir target) top ((wrapping top).ready cache target w).site).list
      ((wrapping top).ready cache target w).here (sourceDir target) =
        .ok (old ++ [(top, .directory)]))
    (honce : ((old ++ [(top, Node.directory)]).map Prod.fst).Nodup) :
    Orderly cache target (wrapping top) w where
  aside v hv name := by
    rw [hold v (List.mem_cons_of_mem w hv), hold w (by simp)]
  unpacks options cached process _ hlaunch := by
    rw [launch_unpacker] at hlaunch
    obtain rfl := Except.ok.inj hlaunch
    let site := ((wrapping top).ready cache target w).site
    have hbefore : site.files.namesIn site.cwd.parts (sourceDir target) = old.map Prod.fst :=
      hold ((wrapping top).ready cache target w) (by simp)
    have hafter := namesIn_of_list hnew
    rw [List.map_append] at hafter
    have hlast : (top, Node.directory) ∈ old ++ [(top, .directory)] := by simp
    refine ⟨fun _ name hname => ?_, fun _ name hname => ?_, fun _ _ _ _ => ⟨_, hnew, honce, hlast⟩⟩
    · rw [hbefore] at hname
      exact hafter ▸ List.mem_append_left _ hname
    · rcases List.mem_append.1 (hafter ▸ hname) with hname | hname
      · rw [hbefore]
        exact .inr hname
      · exact .inl (List.mem_singleton.1 hname)

def emptied : World where
  files := { entries := [(["cache"], .directory), (["work"], .directory)] }

def firstFiles : Files where
  entries := [
    (["cache"], .directory),
    (["work"], .directory),
    (["cache", cacheName (wrapping "demo-1.0").archive], .file { data := [1], changed := 2 }),
    (["work", "source"], .directory),
    (["work", "source", "demo-1.0"], .directory)]
  turn := 3

theorem fetch_first :
    Orderly "/cache" "/work" (wrapping "demo-1.0") emptied ∧
    ((wrapping "demo-1.0").fetch "/cache" "/work" emptied).1 =
      .ok ((sourceDir "/work").join "demo-1.0") ∧
    ((wrapping "demo-1.0").fetch "/cache" "/work" emptied).2.files = firstFiles := by
  obtain ⟨hold, hnew, hfetch⟩ :
      (∀ v ∈ [emptied, ((wrapping "demo-1.0").run "/cache" emptied).2,
        (wrapping "demo-1.0").ready "/cache" "/work" emptied], sources "/work" v = []) ∧
      (wrappedIn (sourceDir "/work") "demo-1.0"
        ((wrapping "demo-1.0").ready "/cache" "/work" emptied).site).list
          ((wrapping "demo-1.0").ready "/cache" "/work" emptied).here (sourceDir "/work") =
            .ok [("demo-1.0", .directory)] ∧
      ((wrapping "demo-1.0").fetch "/cache" "/work" emptied).1 =
        .ok ((sourceDir "/work").join "demo-1.0") ∧
      ((wrapping "demo-1.0").fetch "/cache" "/work" emptied).2.files = firstFiles := by
    decide +kernel
  exact ⟨orderly_wrapping [] hold hnew (by decide), hfetch⟩

def afterFirst : World := afterAll "/cache" "/work" emptied [wrapping "demo-1.0"]

theorem afterFirst_eq : afterFirst = { afterFirst with files := firstFiles } := by
  have hfiles : afterFirst.files = firstFiles := fetch_first.2.2
  rw [← hfiles]

theorem fetch_second :
    Orderly "/cache" "/work" (wrapping "demo-2.0") afterFirst ∧
    ((wrapping "demo-2.0").fetch "/cache" "/work" afterFirst).1 = .ok (sourceDir "/work") := by
  -- the files have to be there as a term, and not as what comes of the first fetch
  rw [afterFirst_eq]
  generalize hw : ({ afterFirst with files := firstFiles } : World) = w
  obtain ⟨hold, hnew, hfetch⟩ :
      (∀ v ∈ [w, ((wrapping "demo-2.0").run "/cache" w).2,
        (wrapping "demo-2.0").ready "/cache" "/work" w], sources "/work" v = ["demo-1.0"]) ∧
      (wrappedIn (sourceDir "/work") "demo-2.0"
        ((wrapping "demo-2.0").ready "/cache" "/work" w).site).list
          ((wrapping "demo-2.0").ready "/cache" "/work" w).here (sourceDir "/work") =
            .ok [("demo-1.0", .directory), ("demo-2.0", .directory)] ∧
      ((wrapping "demo-2.0").fetch "/cache" "/work" w).1 = .ok (sourceDir "/work") := by
    rw [← hw]
    decide +kernel
  exact ⟨orderly_wrapping [("demo-1.0", .directory)] hold hnew (by decide), hfetch⟩

theorem orderly_versions :
    ∀ visit ∈ fetches "/cache" "/work" emptied ([wrapping "demo-1.0"] ++ [wrapping "demo-2.0"]),
      Orderly "/cache" "/work" visit.1 visit.2 := by
  rw [fetches_append, List.forall_mem_append]
  refine ⟨List.forall_mem_singleton.2 fetch_first.1, ?_⟩
  exact List.forall_mem_singleton.2 fetch_second.1

/-- The root of the second version is where both are. -/
theorem root_after_other_version :
    (∀ visit ∈ fetches "/cache" "/work" emptied ([wrapping "demo-1.0"] ++ [wrapping "demo-2.0"]),
      Orderly "/cache" "/work" visit.1 visit.2) ∧
    ((wrapping "demo-2.0").fetch "/cache" "/work"
      (afterAll "/cache" "/work" emptied [wrapping "demo-1.0"])).1 = .ok (sourceDir "/work") ∧
    sourceDir "/work" =
      if ∀ name ∈ sources "/work" (afterAll "/cache" "/work" emptied [wrapping "demo-1.0"]),
          name = "demo-2.0" then
        (sourceDir "/work").join "demo-2.0" else sourceDir "/work" := by
  obtain ⟨hroot, -, -⟩ := root_after "/cache" "/work" [wrapping "demo-1.0"] (wrapping "demo-2.0")
    emptied orderly_versions fetch_second.2
  exact ⟨orderly_versions, fetch_second.2, hroot⟩

/-- A version that is fetched first is found, and after another one it is missed. -/
theorem second_root_missed :
    (∀ visit ∈ fetches "/cache" "/work" emptied ([wrapping "demo-1.0"] ++ [wrapping "demo-2.0"]),
      Orderly "/cache" "/work" visit.1 visit.2) ∧
    ((wrapping "demo-1.0").fetch "/cache" "/work" emptied).1 =
      .ok ((sourceDir "/work").join "demo-1.0") ∧
    ((wrapping "demo-2.0").fetch "/cache" "/work"
      (afterAll "/cache" "/work" emptied [wrapping "demo-1.0"])).1 = .ok (sourceDir "/work") ∧
    sourceDir "/work" ≠ (sourceDir "/work").join (wrapping "demo-2.0").top :=
  ⟨orderly_versions, fetch_first.2.1, fetch_second.2, by decide⟩

end Fetch

end Formulary
