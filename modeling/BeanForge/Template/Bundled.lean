/-!
# The bundled template

The template of a generated class: its fields, accessors, and the methods that
compare, hash and show its objects. Objects are compared by their identifiers, or
by all fields if there is none.
-/

namespace BeanForge.Template.Bundled

def name : String := "entity.java.j2"

def lines : List String :=
  [
    "{% if package_name %}",
    "package {{ package_name }};",
    "",
    "{% endif %}",
    "/**",
    " * Implementation of {{ entity_name }}, generated by entitygen.",
    " */",
    "public class {{ impl_name }}",
    "    implements {{ entity_name }}, java.io.Serializable \x7b",
    "",
    "    private static final long serialVersionUID = 1L;",
    "{% for field in fields %}",
    "",
    "    /** The {{ field.name }} property{% if field.is_identifier %}, part of the entity key{% endif %}. */",
    "    private {{ field.type_name }} {{ field.name }};",
    "{% endfor %}",
    "",
    "    /**",
    "     * Default constructor.",
    "     */",
    "    public {{ impl_name }}() \x7b",
    "",
    "        super();",
    "    \x7d",
    "{% for field in fields %}",
    "",
    "    public {{ field.type_name }} {{ field | getter_name }}() \x7b",
    "",
    "        return {{ field.name }};",
    "    \x7d",
    "",
    "    public void {{ field | setter_name }}({{ field.type_name }} {{ field.name }}) \x7b",
    "",
    "        this.{{ field.name }} = {{ field.name }};",
    "    \x7d",
    "{% endfor %}",
    "{% set key_fields = id_fields if id_fields else fields %}",
    "",
    "    @Override",
    "    public boolean equals(Object obj) \x7b",
    "",
    "        if (this == obj) \x7b",
    "            return true;",
    "        \x7d",
    "        if (!(obj instanceof {{ impl_name }})) \x7b",
    "            return false;",
    "        \x7d",
    "{% if key_fields %}",
    "        {{ impl_name }} other = ({{ impl_name }}) obj;",
    "        return \x7b\x7b key_fields | map('equals_expr') | join(' && ') \x7d\x7d;",
    "{% else %}",
    "        return true;",
    "{% endif %}",
    "    \x7d",
    "",
    "    @Override",
    "    public int hashCode() \x7b",
    "",
    "        int result = 17;",
    "{% for field in key_fields %}",
    "        result = 31 * result + {{ field | hash_expr }};",
    "{% endfor %}",
    "        return result;",
    "    \x7d",
    "",
    "    @Override",
    "    public String toString() \x7b",
    "",
    "        return \"{{ impl_name }}[\"",
    "{% for field in fields %}",
    "            + \"{{ field.name }}=\" + {{ field | string_expr }}{% if not loop.last %} + \", \"{% endif %}",
    "",
    "{% endfor %}",
    "            + \"]\";",
    "    \x7d",
    "\x7d"
  ]

def text : String :=
  String.join (lines.map (· ++ "\n"))

end BeanForge.Template.Bundled
