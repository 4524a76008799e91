import SceneScript.Data

/-!
The catalogs that come with the program: the core, and extensions for schools, hospitals and the
military.
-/

namespace SceneScript.Catalog.Bundled

/-- An entity definition under its keyword. -/
def entity (keyword category subtype : String) : String × Data :=
  (keyword, .ofFields [("category", .text category), ("subtype", .text subtype)])

/-- A human whose subtype is the given one. -/
def human (keyword subtype : String) : String × Data := entity keyword "human" subtype

/-- The age and gender of a subtype. -/
def aged (subtype : String) (age : Int) (gender : String) : String × Data :=
  (subtype, .ofFields [("age", .number (.int age)), ("gender", .text gender)])

/-- The age of a subtype whose gender is open, with its role. -/
def role (subtype : String) (age : Int) (name : String) : String × Data :=
  (subtype, .ofFields [("age", .number (.int age)), ("gender", .text "neutral"), ("role", .text name)])

/-- A background of one color. -/
def solid (color : String) : Data := .ofFields [("type", .text "solid"), ("color", .text color)]

/-- A background that runs from one color down to another. -/
def gradient (top bottom : String) : Data :=
  .ofFields [
    ("type", .text "gradient"),
    ("value", .ofFields [
      ("type", .text "linear"), ("colors", .list [.text top, .text bottom]), ("angle", .number 180)])]

/-- An environment without lighting of its own. -/
def unlit (name : String) (background : Data) : String × Data :=
  (name, .ofFields [("background", background)])

/-- An environment with ambient light. -/
def lit (name : String) (background : Data) (ambient : Float) : String × Data :=
  (name, .ofFields [
    ("background", background), ("lighting", .ofFields [("ambient", .number (.float ambient))])])

/-- The sections that begin every catalog. -/
def header (name description : String) : List (String × Data) :=
  [("schema_version", .text "1.0"), ("name", .text name), ("description", .text description)]

/-- Humans, objects, props and environments that are always known. -/
def core : Data :=
  .ofFields (header "core" "Humans, animals, objects, props and outdoor/indoor environments" ++ [
    ("fallback_defaults", .ofFields [("age", .number 25)]),
    ("entities", .ofFields [
      human "MAN" "adult_male",
      human "WOMAN" "adult_female",
      human "BOY" "child_male",
      human "GIRL" "child_female",
      human "BABY" "infant",
      human "PERSON" "adult_neutral",
      human "CHILD" "child_neutral",
      entity "TREE" "object" "tree",
      entity "HOUSE" "object" "house",
      entity "CAR" "object" "car",
      entity "BUILDING" "object" "building",
      entity "BOAT" "object" "boat",
      entity "BLACKBOARD" "object" "blackboard",
      entity "DESK" "object" "desk",
      entity "CHAIR" "object" "chair",
      entity "BALL" "prop" "ball",
      entity "BOOK" "prop" "book",
      entity "LAMP" "prop" "lamp",
      entity "UMBRELLA" "prop" "umbrella"]),
    ("defaults", .ofFields [
      aged "adult_male" 30 "male",
      aged "adult_female" 30 "female",
      aged "adult_neutral" 30 "neutral",
      aged "child_male" 10 "male",
      aged "child_female" 10 "female",
      aged "child_neutral" 10 "neutral",
      aged "infant" 1 "neutral"]),
    ("environments", .ofFields [
      unlit "park" (gradient "#87CEEB" "#90EE90"),
      unlit "office" (solid "#F5F5F5"),
      unlit "hospital" (solid "#E8F4F8"),
      unlit "classroom" (solid "#FFF8DC"),
      unlit "beach" (gradient "#87CEEB" "#F4A460"),
      unlit "forest" (gradient "#228B22" "#006400")])])

/-- Staff and students of schools, and their rooms. -/
def educational : Data :=
  .ofFields (header "educational" "Teaching staff, students, administrators and school environments" ++ [
    ("entities", .ofFields [
      human "TEACHER" "teacher",
      human "PROFESSOR" "professor",
      human "INSTRUCTOR" "instructor",
      human "STUDENT" "student",
      human "ELEMENTARY_STUDENT" "elementary_student",
      human "HIGH_SCHOOL_STUDENT" "high_school_student",
      human "COLLEGE_STUDENT" "college_student",
      human "PRINCIPAL" "principal",
      human "VICE_PRINCIPAL" "vice_principal",
      human "GUIDANCE_COUNSELOR" "guidance_counselor",
      human "LIBRARIAN" "librarian",
      human "CUSTODIAN" "custodian"]),
    ("defaults", .ofFields [
      role "teacher" 35 "teacher",
      role "professor" 45 "professor",
      role "instructor" 32 "instructor",
      role "student" 15 "student",
      role "elementary_student" 8 "student",
      role "high_school_student" 16 "student",
      role "college_student" 20 "student",
      role "principal" 50 "principal",
      role "vice_principal" 45 "vice_principal",
      role "guidance_counselor" 40 "guidance_counselor",
      role "librarian" 40 "librarian",
      role "custodian" 45 "custodian"]),
    ("environments", .ofFields [
      lit "classroom" (solid "#FFF8DC") 0.9,
      lit "lecture_hall" (solid "#F5F5DC") 0.8,
      lit "laboratory" (solid "#F0F8FF") 1.0,
      lit "library" (solid "#F4F1E8") 0.7,
      lit "gymnasium" (solid "#E8E8E8") 0.95,
      lit "cafeteria" (solid "#FFF5EE") 0.85,
      lit "playground" (gradient "#87CEEB" "#90EE90") 1.0])])

/-- Medical staff, patients and clinical rooms. -/
def hospital : Data :=
  .ofFields (header "hospital" "Medical professionals, patients and hospital environments" ++ [
    ("entities", .ofFields [
      human "DOCTOR" "doctor",
      human "SURGEON" "surgeon",
      human "NURSE" "nurse",
      human "NURSE_PRACTITIONER" "nurse_practitioner",
      human "PATIENT" "patient",
      human "PARAMEDIC" "paramedic",
      human "RADIOLOGIST" "radiologist",
      human "PHARMACIST" "pharmacist",
      human "TECHNICIAN" "technician"]),
    ("defaults", .ofFields [
      role "doctor" 40 "doctor",
      role "surgeon" 45 "surgeon",
      role "nurse" 35 "nurse",
      role "nurse_practitioner" 38 "nurse_practitioner",
      role "patient" 40 "patient",
      role "paramedic" 30 "paramedic",
      role "radiologist" 42 "radiologist",
      role "pharmacist" 38 "pharmacist",
      role "technician" 32 "technician"]),
    ("environments", .ofFields [
      lit "hospital" (solid "#F0F8FF") 0.95,
      lit "examination_room" (solid "#F8F8FF") 1.0,
      lit "operating_room" (solid "#E6F3F7") 1.0,
      lit "emergency_room" (solid "#F5F5F5") 1.0,
      lit "waiting_room" (solid "#FFF8E7") 0.8,
      lit "patient_room" (solid "#FFF5EE") 0.75,
      lit "intensive_care" (solid "#F0F8FF") 0.9])])

/-- Service members. -/
def military : Data :=
  .ofFields (header "military" "Soldiers, officers and other service members" ++ [
    ("entities", .ofFields [
      human "SOLDIER" "soldier",
      human "OFFICER" "officer",
      human "GENERAL" "general",
      human "MARINE" "marine"]),
    ("defaults", .ofFields [
      role "soldier" 25 "soldier",
      role "officer" 35 "officer",
      role "general" 55 "general",
      role "marine" 25 "marine"]),
    ("environments", .ofFields [
      lit "barracks" (solid "#C2B280") 0.8])])

/-- The bundled catalogs in the order of their names. -/
def all : List (String × Data) :=
  [("core", core), ("educational", educational), ("hospital", hospital), ("military", military)]

end SceneScript.Catalog.Bundled
