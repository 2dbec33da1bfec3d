import Reftest.Proofs.Run.Unfolding

namespace Reftest

namespace FileTree

variable {tree : FileTree} {place : Location} {directory : Location} {path : Octets}

theorem create_set {mode : Nat} {content : Content}
    (hlocate : tree.locate directory path = .ok place)
    (hfile : tree.lookup? place = some (.file mode content)) (content' : Content) :
    (tree.set place (.file mode content')).create directory path =
      tree.create directory path := by
  have halike := alike_set_file hfile mode content'
  unfold create
  rw [find_congr fun other _ => halike other]
  split
  · rfl
  · cases hfind : tree.find .create directory path with
    | error failure => rfl
    | ok landing =>
        -- a way that may end in a new file ends where a way to what is there ends
        have hentry := (find_find_of_create hfind).symm.trans (locate_eq_ok.mp hlocate)
        cases hentry
        simp [file?, hfile]

end FileTree

namespace Run

/-- Two worlds that differ in nothing but the content of a file, the one that the path of the log
leads to. -/
structure DifferInLog (settings : Settings) (world other : World) : Prop where
  elsewhere : other.withFiles world.files = world
  files : ∃ log mode content content',
    world.files.locate world.directory settings.logFile = .ok log ∧
      world.files.lookup? log = some (.file mode content) ∧
      other.files.lookup? log = some (.file mode content') ∧
      ∀ place, place ≠ log → other.files.lookup? place = world.files.lookup? place

/-- Two runs cannot be told apart, by their results, by anything that happens in them, or by any
program that is run with all that it finds and writes. -/
structure Indistinct (settings : Settings) (writer : Writer) (world other : World) : Prop where
  result : (run settings writer other).result = (run settings writer world).result
  trace : (run settings writer other).trace = (run settings writer world).trace
  executions : executions settings other = executions settings world

variable {settings : Settings} {world other : World}

theorem DifferInLog.withFiles (h : DifferInLog settings world other) :
    ∃ log mode content content',
      world.files.locate world.directory settings.logFile = .ok log ∧
        world.files.lookup? log = some (.file mode content) ∧
        other = world.withFiles (world.files.set log (.file mode content')) := by
  obtain ⟨log, mode, content, content', hlocate, hfile, hfile', hothers⟩ := h.files
  refine ⟨log, mode, content, content', hlocate, hfile, ?_⟩
  have hfiles : other.files = world.files.set log (.file mode content') := by
    ext place : 2
    by_cases hplace : place = log
    · subst hplace
      rw [hfile', FileTree.lookup?_set_self]
    · rw [hothers place hplace, FileTree.lookup?_set_of_ne _ _ hplace]
  calc other
      = (other.withFiles world.files).withFiles other.files := rfl
    _ = world.withFiles (world.files.set log (.file mode content')) := by
        rw [h.elsewhere, hfiles]

theorem DifferInLog.create_eq (h : DifferInLog settings world other) :
    other.files.create other.directory settings.logFile =
      world.files.create world.directory settings.logFile := by
  obtain ⟨log, mode, content, content', hlocate, hfile, rfl⟩ := h.withFiles
  exact FileTree.create_set hlocate hfile content'

theorem DifferInLog.withFiles_eq (h : DifferInLog settings world other) (files : FileTree) :
    other.withFiles files = world.withFiles files := by
  obtain ⟨log, mode, content, content', -, -, rfl⟩ := h.withFiles
  rfl

theorem DifferInLog.harnessRun_eq (h : DifferInLog settings world other) :
    harnessRun settings other = harnessRun settings world := by
  unfold harnessRun
  rw [h.create_eq]
  split
  · rfl
  · simp only [h.withFiles_eq]

theorem run_eq_of_created (h : DifferInLog settings world other) {log : Location}
    {files : FileTree}
    (hlog : world.files.create world.directory settings.logFile = .ok (log, files))
    (writer : Writer) : run settings writer other = run settings writer world := by
  have hlog' : other.files.create other.directory settings.logFile = .ok (log, files) :=
    h.create_eq.trans hlog
  have hcreated : createLog settings.logFile other = createLog settings.logFile world := by
    rw [createLog_of_ok hlog, createLog_of_ok hlog', h.withFiles_eq]
  simp only [run, harnessEnding, Stage.bind_apply, hcreated]

theorem run_differInLog (h : DifferInLog settings world other) (writer : Writer) :
    Indistinct settings writer world other ∧
      ∀ {log files}, world.files.create world.directory settings.logFile = .ok (log, files) →
        (run settings writer other).world = (run settings writer world).world := by
  have hexecutions : executions settings other = executions settings world := by
    simp only [executions, h.harnessRun_eq]
  cases hlog : world.files.create world.directory settings.logFile with
  | error failure =>
      have hrun := run_of_logRefused hlog writer
      have hrun' := run_of_logRefused (h.create_eq.trans hlog) writer
      refine ⟨⟨?_, ?_, hexecutions⟩, ?_⟩
      · rw [hrun, hrun']
      · rw [hrun, hrun']
      · intro log files hcreated
        cases hcreated
  | ok created =>
      have hrun := run_eq_of_created h hlog writer
      refine ⟨⟨?_, ?_, hexecutions⟩, fun _ => ?_⟩
      · rw [hrun]
      · rw [hrun]
      · rw [hrun]

/-- The path of the log is a link to the browser. -/
def logOverBrowser (browser : Content) : World where
  files := ((FileTree.empty.set [[0x6C]] (.link [0x62])).set [[0x62]] (.file 0o755 browser)).set
    [[0x68]] (.file 0o755 (.program { output := [0x41], ending := .killed }))

def logOverBrowserSettings : Settings :=
  { Settings.ofConfig {} with harness := "./h", logFile := [0x6C], browser := "./b" }

theorem differInLog_logOverBrowser (browser browser' : Content) :
    DifferInLog logOverBrowserSettings (logOverBrowser browser) (logOverBrowser browser') where
  elsewhere := rfl
  files := by
    refine ⟨[[0x62]], 0o755, browser, browser', rfl, rfl, rfl, ?_⟩
    intro place hplace
    simp [logOverBrowser, FileTree.set, hplace]

/-- Neither browser is run, the one as little as the other. -/
theorem run_differInLog_logOverBrowser :
    Indistinct logOverBrowserSettings {} (logOverBrowser (.program {}))
        (logOverBrowser (.octets [])) ∧
      (run logOverBrowserSettings {} (logOverBrowser (.octets []))).world =
        (run logOverBrowserSettings {} (logOverBrowser (.program {}))).world ∧
      (run logOverBrowserSettings {} (logOverBrowser (.octets []))).trace.calls =
        [([0x2E, 0x2F, 0x68], [Octets.ofText "reftest"])] := by
  obtain ⟨hindistinct, hworld⟩ :=
    run_differInLog (differInLog_logOverBrowser (.program {}) (.octets [])) {}
  exact ⟨hindistinct, hworld rfl, by decide +kernel⟩

end Run

end Reftest
