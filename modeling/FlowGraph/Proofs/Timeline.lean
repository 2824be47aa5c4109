/-
# Undo and redo along a track

A timeline keeps two stacks around the present document. Read oldest first they are one row of
documents with a cursor on it. Undo and redo move the cursor by one place and leave the row alone;
an edit cuts off what lies behind the cursor, puts the new document there, and drops documents in
front if there are more than the limit allows. Redo never looks at the limit. It holds all the same,
because it bounds both stacks together and moving the cursor only passes documents from one to the
other.
-/

import FlowGraph.Timeline
import Mathlib.Data.List.DropRight

namespace FlowGraph

/-- A row of documents, oldest first, and the place of the present one. -/
@[ext]
structure Track where
  documents : List Document
  cursor : Nat
  cursor_lt : cursor < documents.length

/-- What may be done to a timeline. To replace the document by itself is no change, but a
replacement knows only the value of the new document, so `retain` stands for that one. -/
inductive Move where
  | dispatch (command : Command)
  | retain
  | undo
  | redo
  | reset (document : Document)

/-- Whether a move changed anything, or why it failed. -/
abbrev Answer := Except Failure Bool

/-- The answers to a series of moves, and the state that they lead to. -/
def runMoves {State : Type} (act : State → Move → Answer × State) (state : State) :
    List Move → List Answer × State
  | [] => ([], state)
  | move :: rest =>
    let (answer, next) := act state move
    let (answers, last) := runMoves act next rest
    (answer :: answers, last)

/-- What becomes of a state when an operation may fail, leave it alone, or replace it. -/
def settle {State : Type} (state : State) : Except Failure (Option State) → Answer × State
  | .error cause => (.error cause, state)
  | .ok none => (.ok false, state)
  | .ok (some next) => (.ok true, next)

theorem settle_map {State Image : Type} (f : State → Image) (state : State)
    (outcome : Except Failure (Option State)) :
    settle (f state) (outcome.map (Option.map f)) = Prod.map id f (settle state outcome) := by
  rcases outcome with cause | (- | next) <;> rfl

namespace Track

/-- The document at the cursor. -/
def present (track : Track) : Document := track.documents.get ⟨track.cursor, track.cursor_lt⟩

/-- A row of one document. -/
def single (document : Document) : Track :=
  { documents := [document], cursor := 0, cursor_lt := Nat.zero_lt_one }

/-- The cursor one place back, unless it is at the beginning. -/
def back? (track : Track) : Option Track :=
  if 0 < track.cursor then
    some
      { track with
        cursor := track.cursor - 1
        cursor_lt := Nat.lt_of_le_of_lt (Nat.sub_le _ _) track.cursor_lt }
  else none

/-- The cursor one place forward, unless it is at the end. -/
def forward? (track : Track) : Option Track :=
  if hnext : track.cursor + 1 < track.documents.length then
    some { track with cursor := track.cursor + 1, cursor_lt := hnext }
  else none

/-- What a new document finds in front of it: the documents up to the cursor, and of those the last
ones, as many as the limit allows. A limit below zero allows none. -/
def kept (track : Track) (limit : Int) : List Document :=
  (track.documents.take (track.cursor + 1)).rtake limit.toNat

/-- Cuts off what lies after the cursor and appends a document, which becomes the present one. -/
def record (track : Track) (limit : Int) (document : Document) : Track :=
  { documents := track.kept limit ++ [document]
    cursor := (track.kept limit).length
    cursor_lt := by simp }

@[simp]
theorem documents_record (track : Track) (limit : Int) (document : Document) :
    (track.record limit document).documents = track.kept limit ++ [document] := rfl

@[simp]
theorem cursor_record (track : Track) (limit : Int) (document : Document) :
    (track.record limit document).cursor = (track.kept limit).length := rfl

/-- A move on a track. -/
def act (limit : Int) (track : Track) : Move → Answer × Track
  | .dispatch command =>
    settle track ((command.apply track.present).map (Option.map (track.record limit)))
  | .retain => settle track (.ok none)
  | .undo => settle track (.ok track.back?)
  | .redo => settle track (.ok track.forward?)
  | .reset document => settle track (.ok (some (single document)))

end Track

namespace Timeline

/-- A move on a timeline. -/
def act (timeline : Timeline) : Move → Answer × Timeline
  | .dispatch command => settle timeline (timeline.dispatch command)
  | .retain => settle timeline (.ok none)
  | .undo => settle timeline (.ok timeline.undo)
  | .redo => settle timeline (.ok timeline.redo)
  | .reset document => settle timeline (.ok (some (timeline.reset document)))

/-- The documents of a timeline in one row, oldest first. -/
def track (timeline : Timeline) : Track :=
  { documents := timeline.past.reverse ++ timeline.present :: timeline.future
    cursor := timeline.past.length
    cursor_lt := by simp }

variable (timeline : Timeline)

@[simp]
theorem present_track : timeline.track.present = timeline.present := by
  simp [track, Track.present]

theorem kept_track : timeline.track.kept timeline.limit =
    ((timeline.present :: timeline.past).take timeline.limit.toNat).reverse := by
  have hfront : timeline.track.documents.take (timeline.track.cursor + 1) =
      (timeline.present :: timeline.past).reverse := by
    simp [track, List.take_append, List.take_of_length_le]
  rw [Track.kept, hfront, List.rtake_eq_reverse_take_reverse, List.reverse_reverse]

theorem track_push (document : Document) :
    (timeline.push document).track = timeline.track.record timeline.limit document := by
  ext1
  · rw [Track.documents_record, kept_track]
    rfl
  · rw [Track.cursor_record, kept_track, List.length_reverse]
    rfl

theorem track_undo : timeline.undo.map track = timeline.track.back? := by
  obtain ⟨limit, present, past, future⟩ := timeline
  cases past with
  | nil => rfl
  | cons document rest => simp [undo, track, Track.back?]

theorem track_redo : timeline.redo.map track = timeline.track.forward? := by
  obtain ⟨limit, present, past, future⟩ := timeline
  cases future with
  | nil => simp [redo, track, Track.forward?]
  | cons document rest => simp [redo, track, Track.forward?]

/-- A move on a timeline is the same move on its track. -/
theorem act_track (move : Move) :
    timeline.track.act timeline.limit move = Prod.map id track (timeline.act move) := by
  cases move with
  | dispatch command =>
      have hrecord : (timeline.track.record timeline.limit) = track ∘ timeline.push :=
        funext fun document => (timeline.track_push document).symm
      rw [Track.act, act, ← settle_map, dispatch, present_track, hrecord]
      cases command.apply timeline.present with
      | error cause => rfl
      | ok changed => simp [Except.map]
  | retain => rfl
  | undo =>
      rw [Track.act, act, ← settle_map, ← track_undo]
      rfl
  | redo =>
      rw [Track.act, act, ← settle_map, ← track_redo]
      rfl
  | reset document => rfl

/-- The limit holds for both stacks together. -/
def Bounded : Prop := timeline.past.length + timeline.future.length ≤ timeline.limit.toNat

variable {timeline}

/-- Whatever a move leads to keeps the limit and stays within it. -/
theorem Bounded.act (hbounded : timeline.Bounded) (move : Move) :
    (timeline.act move).2.limit = timeline.limit ∧ (timeline.act move).2.Bounded := by
  have hsettle (outcome : Except Failure (Option Timeline))
      (hnext : ∀ next, outcome = .ok (some next) → next.limit = timeline.limit ∧ next.Bounded) :
      (settle timeline outcome).2.limit = timeline.limit ∧
        (settle timeline outcome).2.Bounded := by
    rcases outcome with cause | (- | next)
    · exact ⟨rfl, hbounded⟩
    · exact ⟨rfl, hbounded⟩
    · exact hnext next rfl
  obtain ⟨limit, present, past, future⟩ := timeline
  cases move with
  | dispatch command =>
      refine hsettle _ fun next hok => ?_
      rw [dispatch] at hok
      cases happlied : command.apply present with
      | error cause => simp [happlied, Except.map] at hok
      | ok changed =>
          simp only [happlied, Except.map, Except.ok.injEq] at hok
          obtain ⟨document, -, rfl⟩ := Option.map_eq_some_iff.mp hok
          refine ⟨rfl, ?_⟩
          simp only [Bounded, push, List.length_nil, Nat.add_zero]
          exact List.length_take_le _ _
  | retain => exact hsettle _ fun next hok => by cases hok
  | undo =>
      refine hsettle _ fun next hok => ?_
      cases past with
      | nil => cases hok
      | cons document rest =>
          cases hok
          refine ⟨rfl, ?_⟩
          simp only [Bounded, List.length_cons] at hbounded ⊢
          omega
  | redo =>
      refine hsettle _ fun next hok => ?_
      cases future with
      | nil => cases hok
      | cons document rest =>
          cases hok
          refine ⟨rfl, ?_⟩
          simp only [Bounded, List.length_cons] at hbounded ⊢
          omega
  | reset document =>
      refine hsettle _ fun next hok => ?_
      cases hok
      exact ⟨rfl, Nat.zero_le _⟩

theorem runMoves_track (hbounded : timeline.Bounded) (moves : List Move) :
    runMoves (Track.act timeline.limit) timeline.track moves =
        Prod.map id track (runMoves Timeline.act timeline moves) ∧
      (runMoves Timeline.act timeline moves).2.limit = timeline.limit ∧
      (runMoves Timeline.act timeline moves).2.Bounded := by
  induction moves generalizing timeline with
  | nil => exact ⟨rfl, rfl, hbounded⟩
  | cons move rest ih =>
      obtain ⟨hlimit, hnext⟩ := hbounded.act move
      obtain ⟨hrun, hlast, hend⟩ := ih hnext
      rw [hlimit] at hrun hlast
      refine ⟨?_, hlast, hend⟩
      simp only [runMoves, act_track, Prod.map_fst, Prod.map_snd, id_eq, hrun]
      rfl

/-- Whatever is done to a new timeline, in whatever order and whichever edits fail or change
nothing, its answers and its documents are those of a track, and never more documents can be gone
back and forward to than the limit allows. -/
theorem follows_track (limit : Int) (start : Document) (moves : List Move) :
    (runMoves Timeline.act { limit, present := start } moves).1 =
        (runMoves (Track.act limit) (Track.single start) moves).1 ∧
      (runMoves Timeline.act { limit, present := start } moves).2.track =
        (runMoves (Track.act limit) (Track.single start) moves).2 ∧
      (((runMoves Timeline.act { limit, present := start } moves).2.past.length +
          (runMoves Timeline.act { limit, present := start } moves).2.future.length : Nat) : Int) ≤
        max limit 0 := by
  have hnew : Bounded { limit, present := start } := Nat.zero_le _
  obtain ⟨hrun, hlimit, hend⟩ := runMoves_track hnew moves
  have hsingle : track { limit, present := start } = Track.single start := rfl
  rw [hsingle] at hrun
  rw [hrun]
  refine ⟨rfl, rfl, ?_⟩
  rw [Bounded, hlimit] at hend
  calc
    _ ≤ ((limit.toNat : Nat) : Int) := Int.ofNat_le.mpr hend
    _ = max limit 0 := Int.toNat_eq_max limit

end Timeline

end FlowGraph
