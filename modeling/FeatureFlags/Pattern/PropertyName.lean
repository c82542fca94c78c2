import FeatureFlags.Pattern.Age
import FeatureFlags.Pattern.Break
import FeatureFlags.Pattern.ScriptUse

/-!
**The sets that property names stand for.**

Names are matched loosely: case, blanks, hyphens, underscores, what is not ASCII and a leading `is`
do not count.

* `ofName?`: the set that a name alone stands for.
* `ofProperty?`: the set of the characters with a value of a property.
-/

namespace FeatureFlags.CharSet

/-- A name without what does not count. A leading `is` stays before a lone `c`. -/
def normalName (name : List Char) : String :=
  let lower := name.map Char.toLower
  let plain := fun text : List Char =>
    text.filter fun c => decide (c.toNat < 128) && c != ' ' && c != '-' && c != '_'
  match lower with
  | 'i' :: 's' :: rest => String.ofList (if plain rest = ['c'] then ['i', 's', 'c'] else plain rest)
  | _ => String.ofList (plain lower)

/-- The set that a name stands for: a property, a category or a script. Three short names mean the
category before the property. -/
def ofName? (name : List Char) : Option CharSet :=
  let name := normalName name
  let property :=
    if name = "cf" ∨ name = "sc" ∨ name = "lc" then none else named? properties name
  property.or ((categorySet? name).or (named? scripts name))

/-- The set of the characters with a value of a property. -/
def ofProperty? (property value : List Char) : Option CharSet :=
  let value := normalName value
  match normalName property with
  | "gc" | "generalcategory" => categorySet? value
  | "sc" | "script" => named? scripts value
  | "scx" | "scriptextensions" => usedInScript? value
  | "age" => ofAge? value
  | "gcb" | "graphemeclusterbreak" => named? graphemeBreaks value
  | "wb" | "wordbreak" => named? wordBreaks value
  | "sb" | "sentencebreak" => named? sentenceBreaks value
  | _ => none

end FeatureFlags.CharSet
