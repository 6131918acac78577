import AuditAspects.Project.Module

/-!
# The project template

The files that a new project starts with, both their texts and what they mean.
-/

namespace AuditAspects.Template

/-- The text of the settings module. -/
def settingsText : String :=
  "\"\"\"\n" ++
  "Configuration settings for your auditgen project.\n" ++
  "Edit these values to match your Java project layout.\n" ++
  "\n" ++
  "Environment variables can override these settings:\n" ++
  "- AUDITGEN_SOURCE_ROOT\n" ++
  "- AUDITGEN_OUTPUT_DIR\n" ++
  "- AUDITGEN_LOGICAL_PATH, AUDITGEN_MODULE\n" ++
  "\"\"\"\n" ++
  "\n" ++
  "import os\n" ++
  "\n" ++
  "# Where generated .aj files go, relative to OUTPUT_DIR\n" ++
  "SOURCE_ROOT = os.getenv(\"AUDITGEN_SOURCE_ROOT\", \"src/main/java\")\n" ++
  "\n" ++
  "# Root of the Java project (relative paths resolve against this project)\n" ++
  "OUTPUT_DIR = os.getenv(\"AUDITGEN_OUTPUT_DIR\", \"generated\")\n" ++
  "\n" ++
  "# Logical path and module used in metadata identifiers\n" ++
  "LOGICAL_PATH = os.getenv(\"AUDITGEN_LOGICAL_PATH\", \"SRC_MAIN_JAVA\")\n" ++
  "MODULE = os.getenv(\"AUDITGEN_MODULE\", \"\")\n"

/-- What the settings module says. -/
def settings : SettingsModule :=
  .bindings
    [("SOURCE_ROOT", .variable "AUDITGEN_SOURCE_ROOT" "src/main/java"),
     ("OUTPUT_DIR", .variable "AUDITGEN_OUTPUT_DIR" "generated"),
     ("LOGICAL_PATH", .variable "AUDITGEN_LOGICAL_PATH" "SRC_MAIN_JAVA"),
     ("MODULE", .variable "AUDITGEN_MODULE" "")]

/-- The text of the entity module. -/
def customerText : String :=
  "\"\"\"\n" ++
  "Entity contracts.\n" ++
  "\n" ++
  "Each @audit entity gets createdDate, modifiedDate, createdBy and modifiedBy\n" ++
  "fields plus getters in a generated <Entity>_Audit.aj companion file.\n" ++
  "\"\"\"\n" ++
  "\n" ++
  "from auditgen import Entity, audit\n" ++
  "\n" ++
  "\n" ++
  "@audit(created_date_column=\"created_at\", modified_date_column=\"updated_at\")\n" ++
  "class Customer(Entity):\n" ++
  "    \"\"\"Customer aggregate root.\"\"\"\n" ++
  "\n" ++
  "    class Meta:\n" ++
  "        package = \"com.example.domain\"\n" ++
  "        # Accessors already hand-written in Customer.java\n" ++
  "        declared_methods = [\"getModifiedBy\"]\n"

/-- The entity that the entity module defines. -/
def customer : ClassSpec where
  name := "Customer"
  marker := some
    [("created_date_column", .text "created_at"), ("modified_date_column", .text "updated_at")]
  clause := .given
    { package := some (.text "com.example.domain")
      declaredMethods := some (.list [.text "getModifiedBy"]) }

/-- The files of a new project, in ascending order of their paths. -/
def files : List (String × SourceFile) :=
  [("config/settings.py", ⟨settingsText, .settings settings⟩),
   ("entities/customer.py", ⟨customerText, .entities [.define customer]⟩)]

end AuditAspects.Template
