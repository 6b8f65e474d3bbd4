import FormRules.Text.CaseTable

namespace FormRules.Text

/-- Lower case of one character on its own. Only the dotted capital I becomes two. -/
def lowerChar (c : Char) : List Char :=
  if c = 'İ' then ['i', '\u0307']
  else match caseRuns.find? (·.covers c.toNat) with
    | some run => [Char.ofNat (run.lower c.toNat)]
    | none => [c]

/-- Whether the first character that is not case-ignorable is a cased one. -/
def startsCased (cs : List Char) : Bool :=
  match cs.dropWhile isCaseIgnorable with
  | [] => false
  | c :: _ => isCased c

/-- A capital sigma ends a word when a cased character comes before it and none comes after. -/
def lowerSigma (afterCased : Bool) (rest : List Char) : Char :=
  if afterCased && !startsCased rest then 'ς' else 'σ'

/-- Lower case of a text that continues another one; `afterCased` tells whether the last
character before it that is not case-ignorable is a cased one. -/
def lowerFrom (afterCased : Bool) : List Char → List Char
  | [] => []
  | c :: rest =>
    (if c = 'Σ' then [lowerSigma afterCased rest] else lowerChar c) ++
      lowerFrom (if isCaseIgnorable c then afterCased else isCased c) rest

def lowercase (text : String) : String := String.ofList (lowerFrom false text.toList)

@[simp]
theorem toList_lowercase (text : String) :
    (lowercase text).toList = lowerFrom false text.toList := String.toList_ofList

end FormRules.Text
