import Archimate.Dictionary
import Archimate.Json.Reading
import Archimate.Json.Reading.Number

namespace Archimate.Json

/-- A container that is being read: what is complete of it, the last first. -/
inductive Frame where
  | items (done : List Json)
  | members (done : List (Text × Json)) (name : Text)

/-- What the reader expects next. -/
inductive Stage where
  | value
  | firstItem
  | firstName
  | nextName (done : List (Text × Json))
  | complete (value : Json)

structure State where
  frames : List Frame
  stage : Stage
  rest : Text

def nestingLimit : Nat := 968

/-- Goes into a container that opens inside the given ones. -/
def enter (frames : List Frame) (stage : Stage) (rest : Text) : Except ReadError State :=
  if frames.length < nestingLimit then .ok ⟨frames, stage, rest⟩ else .error .nestedTooDeep

def readValue (frames : List Frame) (t : Text) : Except ReadError State :=
  match t with
  | .char '"' :: rest => (readString t.length [] rest).map fun (value, rest) =>
    ⟨frames, .complete (.string value), rest⟩
  | .char '[' :: rest => enter frames .firstItem rest
  | .char '\x7b' :: rest => enter frames .firstName rest
  | _ =>
    match readWord? t with
    | some (value, rest) => .ok ⟨frames, .complete value, rest⟩
    | none => (readNumber t).map fun (value, rest) => ⟨frames, .complete value, rest⟩

def readName (frames : List Frame) (done : List (Text × Json)) (t : Text) :
    Except ReadError State :=
  match t with
  | .char '"' :: rest =>
    match readString t.length [] rest with
    | .error e => .error e
    | .ok (name, rest) =>
      match skipSpace rest with
      | .char ':' :: rest => .ok ⟨.members done name :: frames, .value, rest⟩
      | other => fail other
  | _ => fail t

/-- The object with the members, which are given in reverse. -/
def objectOf (done : List (Text × Json)) : Json :=
  .object (Dictionary.ofList done.reverse).entries

/-- Goes on behind a complete value inside a container. -/
def readSeparator (value : Json) (frame : Frame) (frames : List Frame) (t : Text) :
    Except ReadError State :=
  match frame, t with
  | .items done, .char ',' :: rest => .ok ⟨.items (value :: done) :: frames, .value, rest⟩
  | .items done, .char ']' :: rest => .ok ⟨frames, .complete (.array (value :: done).reverse), rest⟩
  | .members done name, .char ',' :: rest => .ok ⟨frames, .nextName ((name, value) :: done), rest⟩
  | .members done name, .char '\x7d' :: rest =>
    .ok ⟨frames, .complete (objectOf ((name, value) :: done)), rest⟩
  | _, _ => fail t

/-- One step of the reader, which takes at least one code point; `none` at the end of the text. -/
def step (s : State) : Except ReadError (Json ⊕ State) :=
  let t := skipSpace s.rest
  match s.stage, s.frames with
  | .value, frames => (readValue frames t).map .inr
  | .firstItem, frames =>
    match t with
    | .char ']' :: rest => .ok (.inr ⟨frames, .complete (.array []), rest⟩)
    | _ => (readValue (.items [] :: frames) t).map .inr
  | .firstName, frames =>
    match t with
    | .char '\x7d' :: rest => .ok (.inr ⟨frames, .complete (.object []), rest⟩)
    | _ => (readName frames [] t).map .inr
  | .nextName done, frames => (readName frames done t).map .inr
  | .complete value, frame :: frames => (readSeparator value frame frames t).map .inr
  | .complete value, [] => if t.isEmpty then .ok (.inl value) else fail t

theorem rest_of_enter {frames : List Frame} {stage : Stage} {rest : Text} {next : State}
    (h : enter frames stage rest = .ok next) : next.rest = rest := by
  simp only [enter] at h
  split at h
  · simp only [Except.ok.injEq] at h
    rw [← h]
  · simp at h

theorem length_of_readValue {frames : List Frame} {t : Text} {next : State}
    (h : readValue frames t = .ok next) : next.rest.length < t.length := by
  simp only [readValue] at h
  split at h
  · rename_i r
    cases hc : readString (.char '"' :: r).length [] r with
    | error e => rw [hc] at h; simp [Except.map] at h
    | ok result =>
      have := length_of_readString hc
      rw [hc] at h
      simp only [Except.map, Except.ok.injEq] at h
      rw [← h]
      simp only [List.length_cons]
      omega
  · rw [rest_of_enter h]; simp
  · rw [rest_of_enter h]; simp
  · split at h
    · rename_i hw
      have := length_of_readWord? hw
      simp only [Except.ok.injEq] at h
      rw [← h]
      exact this
    · cases hn : readNumber t with
      | error e => rw [hn] at h; simp [Except.map] at h
      | ok result =>
        have := length_of_readNumber hn
        rw [hn] at h
        simp only [Except.map, Except.ok.injEq] at h
        rw [← h]
        exact this

theorem length_of_readName {frames : List Frame} {done : List (Text × Json)} {t : Text}
    {next : State} (h : readName frames done t = .ok next) : next.rest.length < t.length := by
  simp only [readName] at h
  split at h
  · split at h
    · simp at h
    · rename_i name r hc
      have hl := length_of_readString hc
      have hs := length_of_skipSpace r
      split at h
      · rename_i r' hr
        simp only [Except.ok.injEq] at h
        rw [← h]
        rw [hr, List.length_cons] at hs
        simp only [List.length_cons]
        omega
      · simp [fail] at h
  · simp [fail] at h

theorem length_of_readSeparator {value : Json} {frame : Frame} {frames : List Frame}
    {t : Text} {next : State} (h : readSeparator value frame frames t = .ok next) :
    next.rest.length < t.length := by
  simp only [readSeparator] at h
  split at h <;> first | (simp only [Except.ok.injEq] at h; simp [← h]) | simp [fail] at h

theorem map_inr_eq {x : Except ReadError State} {next : State}
    (h : x.map (Sum.inr : State → Json ⊕ State) = .ok (.inr next)) : x = .ok next := by
  cases x with
  | error e => simp [Except.map] at h
  | ok s => simpa [Except.map] using h

/-- A step that does not end the reading takes a code point. -/
theorem length_of_step {s next : State} (h : step s = .ok (.inr next)) :
    next.rest.length < s.rest.length := by
  have hs := length_of_skipSpace s.rest
  simp only [step] at h
  split at h
  · have := length_of_readValue (map_inr_eq h); omega
  · split at h
    · rename_i hc
      simp only [Except.ok.injEq, Sum.inr.injEq] at h
      rw [hc, List.length_cons] at hs
      rw [← h]
      exact hs
    · have := length_of_readValue (map_inr_eq h); omega
  · split at h
    · rename_i hc
      simp only [Except.ok.injEq, Sum.inr.injEq] at h
      rw [hc, List.length_cons] at hs
      rw [← h]
      exact hs
    · have := length_of_readName (map_inr_eq h); omega
  · have := length_of_readName (map_inr_eq h); omega
  · have := length_of_readSeparator (map_inr_eq h); omega
  · split at h <;> simp [fail] at h

def run (s : State) : Except ReadError Json :=
  match h : step s with
  | .error e => .error e
  | .ok (.inl value) => .ok value
  | .ok (.inr next) =>
    have := length_of_step h
    run next
termination_by s.rest.length

def read (text : Text) : Except ReadError Json := run ⟨[], .value, text⟩

end Archimate.Json
