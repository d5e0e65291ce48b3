/-
A source tree on a volume that changes. Between calls the files on disk may become any others. Until
a scan succeeds every call scans them as they are then, and fails as that scan fails; from the first
success on every call is answered from that listing.

What one call does is said twice, for a tree that remembers nothing and for one that does
(`ask_unlisted`, `ask_listed`). The invariant over a whole history is that the tree keeps what the
first call that succeeded has found, and nothing before (`Holds`).
-/
import BundleBuild.Proofs.Listing

namespace BundleBuild.SourceTree

/-! ## One call -/

/-- What a query takes from a listing. -/
def Query.pick (layout : Layout) (listed : List Path) : Query → List Path
  | .files => listed
  | .relevantFiles p => listed.filter fun file => relevant layout p file.text

/-- The files under the declared roots as they are now, in order, or why they cannot be listed. -/
def scan (t : SourceTree) (v : Volume) : Except Trouble (List Path) :=
  (t.scanRoots v).map inOrder

/-- The tree with a listing to keep. -/
def keeping (t : SourceTree) (listed : List Path) : SourceTree :=
  { t with listing := some listed }

variable {t tree : SourceTree} {v w : Volume} {q : Query} {listed : List Path} {trouble : Trouble}

theorem ask_of_files (h : (t.files v).result = .ok (listed, tree)) (q : Query) :
    t.ask v q = (.ok (q.pick t.layout listed), tree) := by
  cases q with
  | files => simp only [ask, h, Query.pick]
  | relevantFiles p => simp only [ask, relevantFiles_of_files h, Query.pick, relevantAmong]

theorem ask_unlisted (hlisting : t.listing = none) (h : t.scan v = .ok listed) (q : Query) :
    t.ask v q = (.ok (q.pick t.layout listed), t.keeping listed) := by
  unfold scan at h
  cases hroots : t.scanRoots v with
  | error trouble => rw [hroots] at h; cases h
  | ok found =>
    rw [hroots] at h
    cases h
    exact ask_of_files (files_of_scanRoots hlisting hroots) q

theorem ask_unlisted_error (hlisting : t.listing = none) (h : t.scan v = .error trouble)
    (q : Query) : t.ask v q = (.error trouble, t) := by
  unfold scan at h
  cases hroots : t.scanRoots v with
  | ok found => rw [hroots] at h; cases h
  | error trouble' =>
    rw [hroots] at h
    cases h
    have hfiles := files_of_scanRoots_error hlisting hroots
    cases q with
    | files => simp only [ask, hfiles]
    | relevantFiles p => simp [ask, relevantFiles, bind, hfiles]

theorem ask_outcome (hlisting : t.listing = none) (v : Volume) (q : Query) :
    (t.ask v q).1 = (t.scan v).map fun listed => q.pick t.layout listed := by
  cases hscan : t.scan v with
  | ok listed => rw [ask_unlisted hlisting hscan]; rfl
  | error trouble => rw [ask_unlisted_error hlisting hscan]; rfl

theorem ask_listed (t : SourceTree) (listed : List Path) (v : Volume) (q : Query) :
    (t.keeping listed).ask v q = (.ok (q.pick t.layout listed), t.keeping listed) :=
  ask_of_files (t := t.keeping listed) rfl q

/-! ## Histories -/

/-- What happens: the tree is asked, or the files on disk become any others. -/
inductive Event where
  | ask (q : Query)
  | change (v : Volume)

/-- A query that was made: the files on disk at that time, and the answer. -/
structure Asked where
  volume : Volume
  query : Query
  answer : Except Trouble (List Path)

def Asked.succeeded (a : Asked) : Bool :=
  match a.answer with
  | .ok _ => true
  | .error _ => false

@[simp] theorem Asked.succeeded_ok : (Asked.mk v q (.ok listed)).succeeded = true := rfl

@[simp] theorem Asked.succeeded_error : (Asked.mk v q (.error trouble)).succeeded = false := rfl

/-- A tree and the files on disk. -/
structure Site where
  tree : SourceTree
  volume : Volume

/-- The queries among the events, with their answers, and what there is after them. -/
def Site.follow (s : Site) : List Event → List Asked × Site
  | [] => ([], s)
  | .change v :: rest => follow { s with volume := v } rest
  | .ask q :: rest =>
    let (answer, tree) := s.tree.ask s.volume q
    let (later, last) := follow { s with tree := tree } rest
    (⟨s.volume, q, answer⟩ :: later, last)

/-- The tree keeps what the first query that succeeded has found. -/
structure Holds (t : SourceTree) (before : List Asked) (tree : SourceTree) : Prop where
  unlisted : before.find? (·.succeeded) = none → tree = t
  listed : ∀ first, before.find? (·.succeeded) = some first →
    ∃ listed, t.scan first.volume = .ok listed ∧
      first.answer = .ok (first.query.pick t.layout listed) ∧ tree = t.keeping listed

variable {before : List Asked}

theorem Holds.ask (h : Holds t before tree) (hlisting : t.listing = none) (v : Volume) (q : Query) :
    Holds t (before ++ [⟨v, q, (tree.ask v q).1⟩]) (tree.ask v q).2 := by
  cases hfirst : before.find? (·.succeeded) with
  | some first =>
    -- The first success stays the first, and a tree that keeps a listing does not change.
    obtain ⟨listed, hscan, hanswer, rfl⟩ := h.listed first hfirst
    rw [ask_listed]
    refine ⟨fun hnone => ?_, fun first' hfirst' => ?_⟩
    · rw [List.find?_append, hfirst] at hnone
      cases hnone
    · rw [List.find?_append, hfirst] at hfirst'
      cases hfirst'
      exact ⟨listed, hscan, hanswer, rfl⟩
  | none =>
    obtain rfl := h.unlisted hfirst
    cases hscan : tree.scan v with
    | ok listed =>
      rw [ask_unlisted hlisting hscan]
      refine ⟨fun hnone => ?_, fun first hfirst' => ?_⟩
      · simp [List.find?_append] at hnone
      · simp only [List.find?_append, hfirst, Option.none_or, List.find?_singleton,
          Asked.succeeded_ok, if_true, Option.some.injEq] at hfirst'
        subst hfirst'
        exact ⟨listed, hscan, rfl, rfl⟩
    | error trouble =>
      rw [ask_unlisted_error hlisting hscan]
      refine ⟨fun _ => rfl, fun first hfirst' => ?_⟩
      simp [List.find?_append, hfirst] at hfirst'

theorem holds_follow (hlisting : t.listing = none) : ∀ (events : List Event) {s : Site}
    {before : List Asked}, Holds t before s.tree →
      Holds t (before ++ (s.follow events).1) (s.follow events).2.tree
  | [], s, before, h => by simpa [Site.follow] using h
  | .change v :: events, s, before, h => holds_follow hlisting events (s := ⟨s.tree, v⟩) h
  | .ask q :: events, s, before, h => by
    have hrest := holds_follow hlisting events (s := ⟨(s.tree.ask s.volume q).2, s.volume⟩)
      (h.ask hlisting s.volume q)
    simpa [Site.follow] using hrest

/-! ## What a tree answers -/

/-- The answer to a query, told from the queries before it and the files on disk. -/
structure Remembers (t : SourceTree) (before : List Asked) (tree : SourceTree) (now : Volume)
    (q : Query) : Prop where
  /-- Before the first success it is the outcome of a scan of the files as they are now. -/
  scans : before.find? (·.succeeded) = none →
    (tree.ask now q).1 = (t.scan now).map fun listed => q.pick t.layout listed
  /-- After a failure the next query scans again, whatever the files have become. -/
  retries : ∀ trouble, (tree.ask now q).1 = .error trouble → ∀ then_ next,
    ((tree.ask now q).2.ask then_ next).1 =
      (t.scan then_).map fun listed => next.pick t.layout listed
  /-- From the first success on it is taken from what that scan has found. -/
  keeps : ∀ first, before.find? (·.succeeded) = some first →
    ∃ listed, t.scan first.volume = .ok listed ∧
      first.answer = .ok (first.query.pick t.layout listed) ∧
      (tree.ask now q).1 = .ok (q.pick t.layout listed)

theorem Holds.remembers (h : Holds t before tree) (hlisting : t.listing = none) (now : Volume)
    (q : Query) : Remembers t before tree now q := by
  cases hfirst : before.find? (·.succeeded) with
  | none =>
    obtain rfl := h.unlisted hfirst
    refine ⟨fun _ => ask_outcome hlisting now q, fun trouble hfails then_ next => ?_, ?_⟩
    · cases hscan : tree.scan now with
      | ok listed =>
        rw [ask_unlisted hlisting hscan] at hfails
        cases hfails
      | error trouble' =>
        rw [ask_unlisted_error hlisting hscan]
        exact ask_outcome hlisting then_ next
    · intro first hfirst'
      rw [hfirst] at hfirst'
      cases hfirst'
  | some first =>
    obtain ⟨listed, hscan, hanswer, rfl⟩ := h.listed first hfirst
    have hask := ask_listed t listed now q
    refine ⟨fun hnone => ?_, fun trouble hfails => ?_, fun first' hfirst' => ?_⟩
    · rw [hfirst] at hnone
      cases hnone
    · rw [hask] at hfails
      cases hfails
    · rw [hfirst] at hfirst'
      cases hfirst'
      exact ⟨listed, hscan, hanswer, by rw [hask]⟩

/-- **A tree remembers its first listing and no failure.** However the files on disk change between
the queries, each query before the first success is a scan of its own, and each one after it is
answered from what that first scan has found. -/
theorem ask_remembers (root : Path) (layout : Layout) (v : Volume) (events : List Event)
    (q : Query) :
    let t : SourceTree := { root := root, layout := layout }
    let site := (Site.mk t v).follow events
    Remembers t site.1 site.2.tree site.2.volume q := by
  intro t site
  have hopened : Holds t [] t := ⟨fun _ => rfl, by simp⟩
  have hbefore : Holds t site.1 site.2.tree := holds_follow rfl events (s := ⟨t, v⟩) hopened
  exact hbefore.remembers rfl site.2.volume q

end BundleBuild.SourceTree
