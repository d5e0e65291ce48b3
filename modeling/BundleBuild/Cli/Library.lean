/-
The modules that commands can be loaded from, with every name in them. A command is shown by its own
name, anything else by its kind.
-/
import BundleBuild.Cli.Registry

namespace BundleBuild.Cli

/-- Members of one kind. -/
def members (kind : String) (names : String) : Entries String :=
  (splitText ' ' names).map fun name => (name, kind)

/-- What every module has. -/
def commonMembers (module : String) : Entries String :=
  members "_Feature" "annotations" ++
  members "str" "__name__ __doc__ __package__ __file__ __cached__" ++
  members "dict" "__builtins__" ++
  members module "__loader__ __spec__"

/-- The modules of the program. -/
def library : Library := [
  ("splitbuild_cli", {
    members := commonMembers "splitbuild_cli" ++
      members "module" "commands errors main output" ++
      members "str" "__version__" ++
      members "list" "__path__",
    holdsModules := true }),
  ("splitbuild_cli.commands", {
    members := commonMembers "splitbuild_cli.commands" ++
      members "list" "__all__" ++
      members "module" "build list_units" ++
      members "list" "__path__",
    holdsModules := true }),
  ("splitbuild_cli.commands.build", {
    members := commonMembers "splitbuild_cli.commands.build" ++
      members "build" "build" ++
      members "function" "error exit_code_for handle_permission_error handle_splitbuild_error" ++
      members "function" "info success warning" ++
      members "int" "EXIT_SYSTEM_ERROR" ++
      members "module" "click" ++
      members "type" "CLIError Path" }),
  ("splitbuild_cli.commands.list_units", {
    members := commonMembers "splitbuild_cli.commands.list_units" ++
      members "function" "info print_table" ++
      members "list" "list_units" ++
      members "module" "click" }),
  ("splitbuild_cli.errors", {
    members := commonMembers "splitbuild_cli.errors" ++
      members "_SpecialForm" "NoReturn" ++
      members "function" "error exit_code_for handle_permission_error handle_splitbuild_error" ++
      members "int" "EXIT_SUCCESS EXIT_SYSTEM_ERROR EXIT_USER_ERROR" ++
      members "module" "click" ++
      members "type" "BuildFailedError CLIError ConfigurationError SourceTreeError" ++
      members "type" "SplitbuildError" }),
  ("splitbuild_cli.main", {
    members := commonMembers "splitbuild_cli.main" ++
      members "_AnyMeta" "Any" ++
      members "cli" "cli" ++
      members "dict" "LAZY_COMMANDS" ++
      members "function" "_configure_logging set_no_color" ++
      members "module" "click importlib rclick" ++
      members "str" "__version__" ++
      members "type" "LazyGroup" }),
  ("splitbuild_cli.output", {
    members := commonMembers "splitbuild_cli.output" ++
      members "_AnyMeta" "Any" ++
      members "ABCMeta" "Sequence" ++
      members "bool" "_force_no_color" ++
      members "Console" "console" ++
      members "function" "create_console error info print_table set_no_color success warning" ++
      members "posix" "os" ++
      members "type" "Console Table" }),
  ("splitbuild_core", {
    members := commonMembers "splitbuild_core" ++
      members "_ProtocolMeta" "JsCompiler" ++
      members "EnumType" "BuildStatus EntryPoint Platform" ++
      members "function" "default_options define_artifact_name define_literal load_config" ++
      members "function" "relevant" ++
      members "list" "__all__" ++
      members "mappingproxy" "PLATFORM_SPECS" ++
      members "ModelMetaclass" "BatchBuildResult BuildConfig BuildFailure CompilerConfig" ++
      members "ModelMetaclass" "CompilerOptions Input Output PlatformSpec SourceLayout" ++
      members "ModelMetaclass" "UnitBuildResult" ++
      members "module" "catalog compiler config entry_points errors executor observability" ++
      members "module" "options platforms source_tree units" ++
      members "SourceLayout" "DEFAULT_LAYOUT" ++
      members "str" "WORKER_SCRIPT_DEFINE __version__" ++
      members "type" "BuildExecutor BuildFailedError ClosureCompilerCli CompilationUnit" ++
      members "type" "CompilationUnitBuilder CompileError ConfigurationError OptionCustomizer" ++
      members "type" "SourceTree SourceTreeError SplitbuildError UnitCatalog UnknownUnitError" ++
      members "UnitCatalog" "COMPILATION_UNITS" ++
      members "list" "__path__",
    holdsModules := true }),
  ("splitbuild_core.catalog", {
    members := commonMembers "splitbuild_core.catalog" ++
      members "ABCMeta" "Iterable Iterator Mapping" ++
      members "BoundLoggerLazyProxy" "logger" ++
      members "EnumType" "EntryPoint Platform" ++
      members "function" "_declare_units define_artifact_name" ++
      members "ModelMetaclass" "CompilerOptions Input" ++
      members "module" "structlog" ++
      members "str" "WORKER_SCRIPT_DEFINE" ++
      members "type" "CompilationUnit ConfigurationError Counter MappingProxyType UnitCatalog" ++
      members "type" "UnknownUnitError" ++
      members "UnitCatalog" "COMPILATION_UNITS" }),
  ("splitbuild_core.compiler", {
    members := commonMembers "splitbuild_core.compiler" ++
      members "_ProtocolMeta" "JsCompiler Protocol" ++
      members "ABCMeta" "Sequence" ++
      members "BoundLoggerLazyProxy" "logger" ++
      members "function" "_define_literal runtime_checkable" ++
      members "ModelMetaclass" "CompilerOptions" ++
      members "module" "structlog subprocess" ++
      members "tuple" "DEFAULT_COMPILER_COMMAND" ++
      members "type" "ClosureCompilerCli CompileError Path PurePosixPath" ++
      members "UnionType" "DefineValue" }),
  ("splitbuild_core.config", {
    members := commonMembers "splitbuild_core.config" ++
      members "_TypedDictMeta" "ConfigDict" ++
      members "BoundLoggerLazyProxy" "logger" ++
      members "function" "Field load_config resolve_config_path" ++
      members "ModelMetaclass" "BaseModel BuildConfig CompilerConfig SourceLayout" ++
      members "module" "structlog yaml" ++
      members "posix" "os" ++
      members "SourceLayout" "DEFAULT_LAYOUT" ++
      members "str" "CONFIG_ENV_VAR CONFIG_FILE_NAME" ++
      members "tuple" "DEFAULT_COMPILER_COMMAND" ++
      members "type" "ConfigurationError Path PydanticValidationError" }),
  ("splitbuild_core.entry_points", {
    members := commonMembers "splitbuild_core.entry_points" ++
      members "EnumType" "EntryPoint Enum" }),
  ("splitbuild_core.errors", {
    members := commonMembers "splitbuild_core.errors" ++
      members "ABCMeta" "Sequence" ++
      members "bool" "TYPE_CHECKING" ++
      members "BoundLoggerLazyProxy" "logger" ++
      members "module" "structlog" ++
      members "type" "BuildFailedError CompileError ConfigurationError SourceTreeError" ++
      members "type" "SplitbuildError UnknownUnitError" }),
  ("splitbuild_core.executor", {
    members := commonMembers "splitbuild_core.executor" ++
      members "_ProtocolMeta" "JsCompiler" ++
      members "_TypedDictMeta" "ConfigDict" ++
      members "BoundLoggerLazyProxy" "logger" ++
      members "EnumType" "BuildStatus Enum" ++
      members "function" "Field dataclass default_max_workers span" ++
      members "ModelMetaclass" "BaseModel BatchBuildResult BuildConfig BuildFailure" ++
      members "ModelMetaclass" "CompilerOptions Input Output UnitBuildResult" ++
      members "module" "structlog threading time" ++
      members "posix" "os" ++
      members "timezone" "UTC" ++
      members "type" "BuildExecutor BuildFailedError ClosureCompilerCli CompilationUnit" ++
      members "type" "CompileError Path SourceTree SplitbuildError ThreadPoolExecutor" ++
      members "type" "UnitCatalog UnknownUnitError _Job _JobOutcome datetime" ++
      members "UnitCatalog" "COMPILATION_UNITS" }),
  ("splitbuild_core.observability", {
    members := commonMembers "splitbuild_core.observability" ++
      members "_AnyMeta" "Any" ++
      members "ABCMeta" "Iterator" ++
      members "bool" "TYPE_CHECKING" ++
      members "BoundLoggerLazyProxy" "logger" ++
      members "EnumType" "StatusCode" ++
      members "function" "configure_logging contextmanager get_tracer span" ++
      members "module" "logging structlog trace" ++
      members "str" "TRACER_NAME" ++
      members "type" "Status" }),
  ("splitbuild_core.options", {
    members := commonMembers "splitbuild_core.options" ++
      members "_LiteralSpecialForm" "Literal" ++
      members "_TypedDictMeta" "ConfigDict" ++
      members "EnumType" "EntryPoint Platform" ++
      members "function" "Field default_options" ++
      members "ModelMetaclass" "BaseModel CompilerOptions" ++
      members "str" "DEBUG_DEFINE PLATFORM_NAME_DEFINE" ++
      members "UnionType" "DefineValue" }),
  ("splitbuild_core.platforms", {
    members := commonMembers "splitbuild_core.platforms" ++
      members "_TypedDictMeta" "ConfigDict" ++
      members "ABCMeta" "Mapping" ++
      members "EnumType" "EntryPoint Enum Platform" ++
      members "function" "Field _is_under _path_parts _spec field_validator relevant" ++
      members "mappingproxy" "PLATFORM_SPECS" ++
      members "ModelMetaclass" "BaseModel Input PlatformSpec SourceLayout" ++
      members "SourceLayout" "DEFAULT_LAYOUT" ++
      members "type" "MappingProxyType PurePath PurePosixPath" }),
  ("splitbuild_core.source_tree", {
    members := commonMembers "splitbuild_core.source_tree" ++
      members "BoundLoggerLazyProxy" "logger" ++
      members "EnumType" "Platform" ++
      members "function" "_raise_walk_error relevant" ++
      members "ModelMetaclass" "SourceLayout" ++
      members "module" "structlog threading" ++
      members "posix" "os" ++
      members "SourceLayout" "DEFAULT_LAYOUT" ++
      members "type" "Path PurePosixPath SourceTree SourceTreeError" }),
  ("splitbuild_core.units", {
    members := commonMembers "splitbuild_core.units" ++
      members "_CallableGenericAlias" "CatalogTransform OptionTransform" ++
      members "ABCMeta" "Callable Mapping" ++
      members "EnumType" "EntryPoint Platform" ++
      members "function" "dataclass default_options define_artifact_name define_literal" ++
      members "mappingproxy" "PLATFORM_SPECS" ++
      members "ModelMetaclass" "CompilerOptions Input" ++
      members "type" "CompilationUnit CompilationUnitBuilder ConfigurationError" ++
      members "type" "OptionCustomizer SplitbuildError UnknownUnitError" ++
      members "UnionType" "DefineValue" })]

end BundleBuild.Cli
