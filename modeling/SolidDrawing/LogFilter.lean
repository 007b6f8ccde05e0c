import SolidDrawing.LogFilter.Directive

/-!
# Log filters

A log filter is a list of directives with commas between them. Of the directives about a part of the program the one
with the longest target counts, of those with equal targets one about a field, and then the last.

A filter is read strictly or leniently. A text that cannot be cut where a directive ends cannot be read either way.
-/

namespace SolidDrawing.LogFilter

/-- The texts of the directives of a filter. -/
def parts (s : String) : List String := (s.splitOn ",").filter fun p => !p.isEmpty

/-- The directives of a filter, or the fault of the first that cannot be read. -/
def parse (s : String) : Except DirectiveFault (List LogDirective) := (parts s).mapM LogDirective.parse

/-- The directives that can be read. -/
def readable? : List String → Option (List LogDirective)
  | [] => some []
  | part :: rest =>
    match LogDirective.parse part with
    | .ok d => (readable? rest).map (d :: ·)
    | .error .malformed => readable? rest
    | .error .insideCharacter => none

/-- The directive that shows all errors. -/
def allErrors : LogDirective := ⟨none, .everything, .error⟩

/-- The directives of a filter that can be read; without any, errors are shown. -/
def parseLenient? (s : String) : Option (List LogDirective) :=
  (readable? (parts s)).map fun ds => if ds.isEmpty then [allErrors] else ds

/-- The directives of the first filter if there is one that can be read, and else those of the second. -/
def firstOf? (strict : Option String) (lenient : String) : Option (List LogDirective) :=
  match strict.map parse with
  | some (.ok ds) => some ds
  | some (.error .insideCharacter) => none
  | _ => parseLenient? lenient

/-- The directive that counts for what a part logs with the given fields. -/
def decisive? (part : String) (fields : List String) (ds : List LogDirective) : Option LogDirective :=
  (ds.filter (·.appliesTo part fields)).foldl (fun best d =>
    match best with
    | none => some d
    | some b => if b.specificity ≤ d.specificity then some d else some b) none

/-- Whether errors of a part with the given fields are logged. Without any directive nothing is. -/
def showsErrors (part : String) (fields : List String) (ds : List LogDirective) : Bool :=
  (decisive? part fields ds).any fun d => d.level != .off

end SolidDrawing.LogFilter
