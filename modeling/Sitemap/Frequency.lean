/-!
# Change frequencies

* `Frequency` : how often a page changes;
* `Frequency.keyword` : its word in a sitemap;
* `Frequency.ordinal` : its number in a decorator, from 0 to 6;
* `Frequency.ofOrdinal` : the frequency of a number; a number that is none of them means `always`.
-/

namespace Sitemap

/-- How often a page changes. -/
inductive Frequency where
  | always
  | hourly
  | daily
  | weekly
  | monthly
  | yearly
  | never
  deriving DecidableEq, Repr

namespace Frequency

/-- All frequencies in the order of their numbers. -/
def all : List Frequency := [always, hourly, daily, weekly, monthly, yearly, never]

/-- The word in a sitemap. -/
def keyword : Frequency → String
  | always => "always"
  | hourly => "hourly"
  | daily => "daily"
  | weekly => "weekly"
  | monthly => "monthly"
  | yearly => "yearly"
  | never => "never"

/-- The name of the decorator's constant. -/
def memberName : Frequency → String
  | always => "ALWAYS"
  | hourly => "HOURLY"
  | daily => "DAILY"
  | weekly => "WEEKLY"
  | monthly => "MONTHLY"
  | yearly => "YEARLY"
  | never => "NEVER"

/-- The number of the decorator's constant. -/
def ordinal : Frequency → Nat
  | always => 0
  | hourly => 1
  | daily => 2
  | weekly => 3
  | monthly => 4
  | yearly => 5
  | never => 6

def ofOrdinal (n : Int) : Frequency :=
  (all.find? fun f => (f.ordinal : Int) == n).getD always

def ofKeyword? (s : String) : Option Frequency := all.find? fun f => f.keyword == s

def ofMemberName? (s : String) : Option Frequency := all.find? fun f => f.memberName == s

@[simp] theorem ofOrdinal_ordinal (f : Frequency) : ofOrdinal f.ordinal = f := by
  cases f <;> rfl

@[simp] theorem ofKeyword?_keyword (f : Frequency) : ofKeyword? f.keyword = some f := by
  cases f <;> rfl

@[simp] theorem ofMemberName?_memberName (f : Frequency) :
    ofMemberName? f.memberName = some f := by
  cases f <;> rfl

end Frequency

end Sitemap
